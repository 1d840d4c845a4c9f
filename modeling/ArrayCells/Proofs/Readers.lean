import ArrayCells.Source.Attribute

/-!
# Running readers

What a reader does with given tokens, one equation for each way to build one; and what can be said
of its results, one rule for each way.

* `bind_apply`, `sees_apply`, `enclosed_apply`: readers that succeed;
* `Reader.Gives`: whatever a reader gives on these tokens, if it gives something, and what it
  leaves;
* `Reader.Yields`: the same for all tokens, and without what is left.
-/

namespace ArrayCells.Source

namespace Reader

variable {α β : Type}

theorem bind_apply (r : Reader α) (next : α → Reader β) (ts : List Token) :
    (r >>= next) ts =
      match r ts with
      | some (a, rest) => next a rest
      | none => none := by
  show StateT.bind r next ts = _
  rw [StateT.bind]
  cases r ts <;> rfl

theorem bind_of_some {r : Reader α} {next : α → Reader β} {ts rest : List Token} {a : α}
    (h : r ts = some (a, rest)) : (r >>= next) ts = next a rest := by
  rw [bind_apply, h]

theorem pure_apply (a : α) (ts : List Token) : (pure a : Reader α) ts = some (a, ts) := rfl

theorem get_apply (ts : List Token) : (get : Reader (List Token)) ts = some (ts, ts) := rfl

theorem sees_apply (test : List Token → Bool) (ts : List Token) :
    sees test ts = some (test ts, ts) := rfl

theorem atEnd_apply (ts : List Token) : atEnd ts = some (isEnd ts, ts) := rfl

theorem seesMark_apply (op : String) (ts : List Token) :
    seesMark op ts = some (isMark op ts, ts) := rfl

theorem seesOpening_apply (d : Delimiter) (ts : List Token) :
    seesOpening d ts = some (isOpening d ts, ts) := rfl

theorem skip_apply (count : Nat) (ts : List Token) : skip count ts = some ((), ts.drop count) := rfl

theorem optionalMark_apply (op : String) (ts : List Token) :
    optionalMark op ts =
      some (isMark op ts, if isMark op ts = true then ts.drop op.length else ts) := by
  rw [optionalMark, bind_apply, seesMark_apply]
  cases isMark op ts <;> rfl

theorem mark_of_isMark {op : String} {ts : List Token} (h : isMark op ts = true) :
    mark op ts = some ((), ts.drop op.length) := by
  rw [mark, bind_apply, seesMark_apply]
  simp only [h, if_true, skip_apply]

/-- Brackets are read with what is between them. -/
theorem enclosed_apply {c d : Delimiter} {r : Reader α} {ts rest : List Token} {a : α}
    (h : r ts = some (a, .closing c :: rest)) :
    enclosed d r (.opening d :: ts) = some (a, rest) := by
  have opens : isOpening d (.opening d :: ts) = true := beq_self_eq_true d
  rw [enclosed, bind_apply, seesOpening_apply]
  simp only [opens, if_true, bind_apply, skip_apply, List.drop_one, List.tail_cons, h, get_apply]
  rfl

/-- No attributes are read where there is no mark of one. -/
theorem attributes_of_none {inner : Inner} {fuel : Nat} {ts : List Token}
    (h : isMark "#" ts = false) : attributes inner (fuel + 1) ts = some ((), ts) := by
  rw [attributes, whileSeen, bind_apply, sees_apply]
  simp only [h]
  rfl

/-! ### Results on given tokens -/

/-- If the reader succeeds on these tokens, its result and what it leaves are as the condition
says. -/
def Gives (r : Reader α) (ts : List Token) (post : α → List Token → Prop) : Prop :=
  ∀ a rest, r ts = some (a, rest) → post a rest

section

variable {ts : List Token}

theorem Gives.mono {r : Reader α} {post post' : α → List Token → Prop} (h : Gives r ts post)
    (weaker : ∀ a rest, post a rest → post' a rest) : Gives r ts post' :=
  fun a rest read => weaker a rest (h a rest read)

theorem gives_pure {a : α} {post : α → List Token → Prop} (h : post a ts) :
    Gives (pure a) ts post := by
  intro b rest read
  rw [pure_apply] at read
  cases read
  exact h

theorem gives_failure {post : α → List Token → Prop} : Gives failure ts post := by
  intro a rest read
  cases read

theorem gives_bind {r : Reader α} {next : α → Reader β} {post : β → List Token → Prop}
    (h : Gives r ts fun a rest => Gives (next a) rest post) : Gives (r >>= next) ts post := by
  intro b rest read
  rw [bind_apply] at read
  cases first : r ts with
  | none =>
    rw [first] at read
    cases read
  | some result =>
    rw [first] at read
    exact h result.1 result.2 first b rest read

theorem gives_ite {c : Prop} [Decidable c] {r r' : Reader α} {post : α → List Token → Prop}
    (h : c → Gives r ts post) (h' : ¬ c → Gives r' ts post) :
    Gives (if c then r else r') ts post := by
  by_cases holds : c
  · rw [if_pos holds]
    exact h holds
  · rw [if_neg holds]
    exact h' holds

/-- A question about the tokens changes nothing. -/
theorem gives_bind_sees {test : List Token → Bool} {next : Bool → Reader β}
    {post : β → List Token → Prop} (h : Gives (next (test ts)) ts post) :
    Gives (sees test >>= next) ts post := by
  refine gives_bind fun a rest read => ?_
  rw [sees_apply] at read
  cases read
  exact h

theorem gives_bind_get {next : List Token → Reader β} {post : β → List Token → Prop}
    (h : Gives (next ts) ts post) : Gives (get >>= next) ts post := by
  refine gives_bind fun a rest read => ?_
  rw [get_apply] at read
  cases read
  exact h

theorem gives_bind_skip {count : Nat} {next : Unit → Reader β} {post : β → List Token → Prop}
    (h : Gives (next ()) (ts.drop count) post) : Gives (skip count >>= next) ts post := by
  refine gives_bind fun a rest read => ?_
  rw [skip_apply] at read
  cases read
  exact h

theorem gives_bind_optionalMark {op : String} {next : Bool → Reader β}
    {post : β → List Token → Prop}
    (present : isMark op ts = true → Gives (next true) (ts.drop op.length) post)
    (absent : isMark op ts = false → Gives (next false) ts post) :
    Gives (optionalMark op >>= next) ts post := by
  refine gives_bind fun a rest read => ?_
  rw [optionalMark_apply] at read
  cases seen : isMark op ts with
  | true =>
    rw [seen, if_pos rfl] at read
    cases read
    exact present seen
  | false =>
    rw [seen, if_neg Bool.false_ne_true] at read
    cases read
    exact absent seen

/-- What has been read before does not matter. -/
theorem gives_bind_of_all {r : Reader α} {next : α → Reader β} {post : β → List Token → Prop}
    (h : ∀ a rest, Gives (next a) rest post) : Gives (r >>= next) ts post :=
  gives_bind fun a rest _ => h a rest

end

/-! ### Results on any tokens -/

/-- Whatever the reader gives, on whatever tokens, has the property. -/
def Yields (r : Reader α) (p : α → Prop) : Prop :=
  ∀ ts, Gives r ts fun a _ => p a

section

variable {p : α → Prop} {q : β → Prop}

theorem yields_pure {a : α} (h : p a) : Yields (pure a) p :=
  fun _ => gives_pure h

theorem yields_failure : Yields failure p :=
  fun _ => gives_failure

theorem yields_bind {r : Reader α} {next : α → Reader β} (h : ∀ a, Yields (next a) q) :
    Yields (r >>= next) q :=
  fun _ => gives_bind_of_all fun a rest => h a rest

theorem yields_bind_of {r : Reader α} {next : α → Reader β} (first : Yields r p)
    (h : ∀ a, p a → Yields (next a) q) : Yields (r >>= next) q :=
  fun ts => gives_bind fun a rest read => h a (first ts a rest read) rest

theorem yields_ite {c : Prop} [Decidable c] {r r' : Reader α} (h : Yields r p)
    (h' : Yields r' p) : Yields (if c then r else r') p :=
  fun ts => gives_ite (fun _ => h ts) (fun _ => h' ts)

theorem yields_enclosed {d : Delimiter} {r : Reader α} (h : Yields r p) :
    Yields (enclosed d r) p := by
  refine yields_bind fun opens => yields_ite ?_ yields_failure
  refine yields_bind fun _ => yields_bind_of h fun a holds => yields_bind fun ts => ?_
  split
  · exact yields_bind fun _ => yields_pure holds
  · exact yields_failure

theorem yields_separated {item : Reader α} (h : Yields item p) (fuel : Nat) :
    Yields (separated item fuel) fun items => ∀ x ∈ items, p x := by
  induction fuel with
  | zero => exact yields_failure
  | succ fuel ih =>
    refine yields_bind fun ends => yields_ite (yields_pure fun x among => by cases among) ?_
    refine yields_bind_of h fun x here => yields_bind fun ends' => yields_ite (yields_pure ?_) ?_
    · exact List.forall_mem_singleton.mpr here
    · refine yields_bind fun _ => yields_bind_of ih fun items later => yields_pure ?_
      exact List.forall_mem_cons.mpr ⟨here, later⟩

end

end Reader

end ArrayCells.Source
