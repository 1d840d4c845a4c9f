import ArrayCells.Proofs.WrittenForm

/-!
# The tokens of written operands

The text of a canonical operand consists of digits, brackets, marks and the blanks around
operators.  It is cut into tokens piece by piece: a piece takes its own characters, whatever stands
behind it, as long as that does not go on with a number.

* `Scans`: the characters have these tokens, with any fuel that exceeds their number;
* `integer?_of_digits`: a number is read up to its last digit;
* `scans_text`, `tokens?_text`: the text of a canonical operand has the tokens of its written form.
-/

namespace ArrayCells.Source

open Operand

/-! ### Characters -/

/-- Characters that can follow an operand in a written form. -/
inductive Behind : List Char → Prop
  | none : Behind []
  | paren (cs : List Char) : Behind (')' :: cs)
  | bracket (cs : List Char) : Behind (']' :: cs)
  | comma (cs : List Char) : Behind (',' :: cs)
  | blank (cs : List Char) : Behind (' ' :: cs)
  | dots (cs : List Char) : Behind ('.' :: '.' :: cs)

/-- The ten digits. -/
inductive Digit : Char → Prop
  | zero : Digit '0'
  | one : Digit '1'
  | two : Digit '2'
  | three : Digit '3'
  | four : Digit '4'
  | five : Digit '5'
  | six : Digit '6'
  | seven : Digit '7'
  | eight : Digit '8'
  | nine : Digit '9'

theorem digit_of_isDigit {c : Char} (h : c.isDigit = true) : Digit c := by
  have low : 48 ≤ c.toNat := by
    simp only [Char.isDigit, Bool.and_eq_true, decide_eq_true_eq] at h
    exact h.1
  have high : c.toNat ≤ 57 := by
    simp only [Char.isDigit, Bool.and_eq_true, decide_eq_true_eq] at h
    exact h.2
  have same : c = Char.ofNat c.toNat := (Char.ofNat_toNat c).symm
  obtain h | h | h | h | h | h | h | h | h | h : c.toNat = 48 ∨ c.toNat = 49 ∨ c.toNat = 50 ∨
      c.toNat = 51 ∨ c.toNat = 52 ∨ c.toNat = 53 ∨ c.toNat = 54 ∨ c.toNat = 55 ∨ c.toNat = 56 ∨
      c.toNat = 57 := by omega
  all_goals
    rw [same, h]
    constructor

/-- The characters with which the text of an operand begins, and whether they are marks. -/
inductive Head : Bool → List Char → Prop
  | digit {c : Char} (digit : Digit c) (cs : List Char) : Head false (c :: cs)
  | paren (cs : List Char) : Head false ('(' :: cs)
  | bracket (cs : List Char) : Head false ('[' :: cs)
  | minus (cs : List Char) : Head true ('-' :: cs)
  | dot (cs : List Char) : Head true ('.' :: cs)

theorem Head.atPunctuation_eq {leads : Bool} {cs : List Char} (h : Head leads cs) :
    atPunctuation cs = leads := by
  cases h with
  | digit digit => cases digit <;> rfl
  | _ => rfl

/-! ### Numbers -/

theorem toDigits_digits (n : Nat) : ∀ c ∈ Nat.toDigits 10 n, Digit c :=
  fun _ among => digit_of_isDigit (Nat.isDigit_of_mem_toDigits (by decide) (by decide) among)

theorem digits?_of_digits {ds cs : List Char} (digits : ∀ c ∈ ds, Digit c) (behind : Behind cs)
    (value : Nat) (any : Bool) (some' : any = true ∨ ds ≠ []) :
    digits? 10 value any (ds ++ cs) = some (Nat.ofDigitChars 10 ds value, cs) := by
  induction ds generalizing value any with
  | nil =>
    have before : any = true := some'.resolve_right (fun h => h rfl)
    rw [before]
    cases behind <;> rfl
  | cons d ds ih =>
    rw [List.forall_mem_cons] at digits
    have goesOn := ih digits.2 (value * 10 + (d.toNat - '0'.toNat)) true (.inl rfl)
    have step : digits? 10 value any (d :: (ds ++ cs)) =
        digits? 10 (value * 10 + (d.toNat - '0'.toNat)) true (ds ++ cs) := by
      cases digits.1 <;> rfl
    rw [List.cons_append, step, goesOn, Nat.ofDigitChars, Nat.ofDigitChars, List.foldl_cons,
      Nat.mul_comm]

theorem magnitude?_of_digits {ds cs : List Char} (digits : ∀ c ∈ ds, Digit c) (some' : ds ≠ [])
    (behind : Behind cs) :
    magnitude? (ds ++ cs) = some (Nat.ofDigitChars 10 ds 0, cs) := by
  rw [← digits?_of_digits digits behind 0 false (.inr some')]
  match ds with
  | [] => exact (some' rfl).elim
  | [d] => cases digits d List.mem_cons_self <;> cases behind <;> rfl
  | d :: d' :: ds =>
    -- the mark of another base would be the second character
    rw [List.forall_mem_cons, List.forall_mem_cons] at digits
    have second := digits.2.1
    cases digits.1 with
    | zero => cases second <;> rfl
    | _ => rfl

theorem integer?_of_digits {ds cs : List Char} (digits : ∀ c ∈ ds, Digit c) (some' : ds ≠ [])
    (behind : Behind cs) :
    integer? (ds ++ cs) = some (.integer (Nat.ofDigitChars 10 ds 0) false, cs) := by
  rw [integer?, magnitude?_of_digits digits some' behind]
  cases behind <;> rfl

/-- A point after a number belongs to a range operator. -/
theorem decimal?_of_digits {ds cs : List Char} (digits : ∀ c ∈ ds, Digit c) (some' : ds ≠ [])
    (behind : Behind cs) : decimal? (ds ++ cs) = none := by
  have whole : (ds ++ cs).dropWhile isDigitOrGap = cs := by
    rw [List.dropWhile_append_of_pos]
    · cases behind <;> rfl
    · intro c among
      cases digits c among <;> rfl
  have first : ((ds ++ cs).headD ' ').isDigit = true := by
    cases ds with
    | nil => exact (some' rfl).elim
    | cons d ds => cases digits d List.mem_cons_self <;> rfl
  rw [decimal?, decimalDigits?, first, whole]
  cases behind <;> rfl

theorem tokensAt?_of_digits {ds cs : List Char} (digits : ∀ c ∈ ds, Digit c) (some' : ds ≠ [])
    (behind : Behind cs) :
    tokensAt? (ds ++ cs) = some ([.integer (Nat.ofDigitChars 10 ds 0) false], cs) := by
  have number := integer?_of_digits digits some' behind
  have noDecimal := decimal?_of_digits digits some' behind
  cases ds with
  | nil => exact (some' rfl).elim
  | cons d ds =>
    rw [List.cons_append] at number noDecimal ⊢
    have unquoted : literal? (d :: (ds ++ cs)) =
        (decimal? (d :: (ds ++ cs))).or (integer? (d :: (ds ++ cs))) := by
      cases digits d List.mem_cons_self <;> rfl
    rw [tokensAt?, unquoted, noDecimal, number]
    cases digits d List.mem_cons_self <;> rfl

/-! ### Scanning -/

/-- The characters have these tokens. -/
def Scans (cs : List Char) (ts : List Token) : Prop :=
  ∀ fuel, cs.length < fuel → scan? fuel cs = some ts

/-- No blank and no comment begins. -/
def BeginsToken : List Char → Prop
  | [] => False
  | c :: _ => isBlank c = false ∧ c ≠ '/'

theorem afterBlanks_of_beginsToken {cs : List Char} (h : BeginsToken cs) (fuel : Nat) :
    afterBlanks fuel cs = cs := by
  cases fuel with
  | zero => rfl
  | succ fuel =>
    cases cs with
    | nil => rfl
    | cons c rest =>
      have noSlash : (c != '/') = true := bne_iff_ne.mpr h.2
      simp only [afterBlanks, h.1, noSlash, Bool.false_eq_true, if_false, if_true]

theorem Scans.nil : Scans [] [] := by
  intro fuel enough
  obtain ⟨fuel, rfl⟩ : ∃ m, fuel = m + 1 := ⟨fuel - 1, by omega⟩
  cases fuel <;> rfl

theorem Scans.token {cs after : List Char} {t : Token} {ts : List Token} (begins : BeginsToken cs)
    (here : tokensAt? cs = some ([t], after)) (shorter : after.length < cs.length)
    (h : Scans after ts) : Scans cs (t :: ts) := by
  intro fuel enough
  obtain ⟨fuel, rfl⟩ : ∃ m, fuel = m + 1 := ⟨fuel - 1, by omega⟩
  cases cs with
  | nil => exact begins.elim
  | cons c rest =>
    simp only [scan?, afterBlanks_of_beginsToken begins, here, Option.bind_eq_bind,
      Option.bind_some, h fuel (by omega)]
    rfl

theorem Scans.blank {cs : List Char} {ts : List Token} (begins : BeginsToken cs)
    (h : Scans cs ts) : Scans (' ' :: cs) ts := by
  intro fuel enough
  rw [List.length_cons] at enough
  obtain ⟨fuel, rfl⟩ : ∃ m, fuel = m + 2 := ⟨fuel - 2, by omega⟩
  rw [← h (fuel + 2) (by omega)]
  have skipped : afterBlanks (fuel + 1) (' ' :: cs) = afterBlanks (fuel + 1) cs := by
    rw [afterBlanks_of_beginsToken begins]
    exact afterBlanks_of_beginsToken begins fuel
  rw [scan?, scan?, skipped]

/-! ### Pieces of written forms -/

theorem BeginsToken.of_head {leads : Bool} {cs : List Char} (h : Head leads cs) :
    BeginsToken cs := by
  cases h with
  | digit digit => cases digit <;> exact ⟨rfl, by decide⟩
  | _ => exact ⟨rfl, by decide⟩

/-- Marks that are tokens by themselves. -/
theorem Scans.mark {c : Char} (among : c ∈ ['.', '-', '+', '*', ',']) {cs : List Char}
    {ts : List Token} (h : Scans cs ts) :
    Scans (c :: cs) (.punct c (atPunctuation cs) :: ts) := by
  simp only [List.mem_cons, List.not_mem_nil, or_false] at among
  rcases among with rfl | rfl | rfl | rfl | rfl <;>
    exact .token ⟨rfl, by decide⟩ rfl (Nat.lt_succ_self _) h

theorem Scans.closing {cs : List Char} {ts : List Token} (h : Scans cs ts) :
    Scans (')' :: cs) (.closing .paren :: ts) ∧ Scans (']' :: cs) (.closing .bracket :: ts) :=
  ⟨.token ⟨rfl, by decide⟩ rfl (Nat.lt_succ_self _) h,
    .token ⟨rfl, by decide⟩ rfl (Nat.lt_succ_self _) h⟩

theorem Scans.openBracket {cs : List Char} {ts : List Token} (h : Scans cs ts) :
    Scans ('[' :: cs) (.opening .bracket :: ts) :=
  .token ⟨rfl, by decide⟩ rfl (Nat.lt_succ_self _) h

/-- A parenthesis is not the beginning of a literal that could not be kept. -/
theorem Scans.openParen {leads : Bool} {cs : List Char} {ts : List Token} (head : Head leads cs)
    (h : Scans cs ts) : Scans ('(' :: cs) (.opening .paren :: ts) := by
  refine .token ⟨rfl, by decide⟩ ?_ (Nat.lt_succ_self _) h
  cases head with
  | digit digit => cases digit <;> rfl
  | _ => rfl

theorem Scans.number {n : Nat} {cs : List Char} {ts : List Token} (behind : Behind cs)
    (h : Scans cs ts) : Scans (Nat.toDigits 10 n ++ cs) (.integer n false :: ts) := by
  have digits := toDigits_digits n
  have some' : Nat.toDigits 10 n ≠ [] := Nat.toDigits_ne_nil
  have here := tokensAt?_of_digits digits some' behind
  rw [Nat.ofDigitChars_toDigits (by decide) (by decide)] at here
  refine .token ?_ here ?_ h
  · cases ds : Nat.toDigits 10 n with
    | nil => exact (some' ds).elim
    | cons d ds' =>
      have first := digits d (ds ▸ List.mem_cons_self)
      exact .of_head (.digit first (ds' ++ cs))
  · rw [List.length_append]
    have positive := List.length_pos_iff.mpr some'
    omega

/-! ### Operands -/

theorem text_int {n : Int} (sign : 0 ≤ n) :
    (Operand.int n).text.toList = Nat.toDigits 10 n.toNat := by
  obtain ⟨k, rfl⟩ := Int.eq_ofNat_of_zero_le sign
  exact Nat.toList_repr

theorem head_text {x : Operand} (h : x.Canonical) (cs : List Char) :
    Head x.leads (x.text.toList ++ cs) := by
  induction h generalizing cs with
  | @int n sign fits =>
    rw [text_int sign]
    cases ds : Nat.toDigits 10 n.toNat with
    | nil => exact (Nat.toDigits_ne_nil ds).elim
    | cons d ds' => exact .digit (toDigits_digits n.toNat d (ds ▸ List.mem_cons_self)) _
  | list all ih =>
    simp only [text, String.toList_append, List.append_assoc]
    exact .bracket _
  | group inner ih =>
    simp only [text, String.toList_append, List.append_assoc]
    exact .paren _
  | neg inner tight ih =>
    simp only [text, String.toList_append, List.append_assoc]
    exact .minus _
  | arith lhs _ _ _ _ _ _ ihLeft _ =>
    simp only [text, String.toList_append, List.append_assoc]
    exact ihLeft _
  | @range lo hi _ _ _ _ _ ihLower _ =>
    simp only [text, String.toList_append, List.append_assoc]
    cases lo with
    | none => exact .dot _
    | some x => exact ihLower x rfl _

theorem atPunctuation_text {x : Operand} (h : x.Canonical) (cs : List Char) :
    atPunctuation (x.text.toList ++ cs) = x.leads :=
  (head_text h cs).atPunctuation_eq

/-- An operator stands between blanks. -/
theorem Scans.operator (op : ArithOp) {leads : Bool} {cs : List Char} {ts : List Token}
    (head : Head leads cs) (h : Scans cs ts) :
    Scans (' ' :: op.mark :: ' ' :: cs) (.punct op.mark false :: ts) := by
  have begins : BeginsToken (op.mark :: ' ' :: cs) := by
    cases op <;> exact ⟨rfl, by decide⟩
  have among : op.mark ∈ ['.', '-', '+', '*', ','] := by cases op <;> decide
  exact .blank begins (.mark among (.blank (.of_head head) h))

/-- Two points stand for a range operator. -/
theorem Scans.dots {cs : List Char} {ts : List Token} (h : Scans cs ts) :
    Scans ('.' :: '.' :: cs) (.punct '.' true :: .punct '.' (atPunctuation cs) :: ts) :=
  .mark List.mem_cons_self (.mark List.mem_cons_self h)

/-- The text of an operand scans to its tokens, before whatever can stand behind it. -/
def ScansAsWritten (x : Operand) : Prop :=
  ∀ {cs : List Char} {ts : List Token}, Behind cs → Scans cs ts →
    Scans (x.text.toList ++ cs) (x.tokens (atPunctuation cs) ++ ts)

theorem scans_items {items : List Operand} (all : ∀ x ∈ items, x.Canonical)
    (h : ∀ x ∈ items, ScansAsWritten x) {cs : List Char} {ts : List Token}
    (closed : Scans (']' :: cs) ts) :
    Scans ((itemsText items).toList ++ ']' :: cs) (itemsTokens items ++ ts) := by
  match items with
  | [] => exact closed
  | [x] => exact h x List.mem_cons_self (.bracket cs) closed
  | x :: y :: rest =>
    rw [List.forall_mem_cons] at all h
    have others := scans_items all.2 h.2 closed
    have comma : atPunctuation ((itemsText (y :: rest)).toList ++ ']' :: cs) = y.leads := by
      have second := all.2 y List.mem_cons_self
      cases rest with
      | nil => exact atPunctuation_text second _
      | cons z rest =>
        rw [itemsText, String.toList_append, String.toList_append, List.append_assoc,
          List.append_assoc]
        exact atPunctuation_text second _
    have step := h.1 (.comma _) (Scans.mark (c := ',') (by decide) others)
    rw [comma] at step
    simp only [itemsText, itemsTokens, String.toList_append, List.append_assoc,
      List.cons_append] at step ⊢
    exact step

/-- **Canonical operands scan as they are written.** -/
theorem scans_text {x : Operand} (h : x.Canonical) : ScansAsWritten x := by
  induction h with
  | @int n sign fits =>
    intro cs ts behind closed
    rw [text_int sign]
    exact .number behind closed
  | list all ih =>
    intro cs ts behind closed
    have step := Scans.openBracket (scans_items all ih closed.closing.2)
    simp only [text, tokens, String.toList_append, List.append_assoc, List.cons_append,
      List.nil_append] at step ⊢
    exact step
  | group inner ih =>
    intro cs ts behind closed
    have step := Scans.openParen (head_text inner _) (ih (.paren cs) closed.closing.1)
    simp only [text, tokens, String.toList_append, List.append_assoc, List.cons_append,
      List.nil_append] at step ⊢
    exact step
  | neg inner tight ih =>
    intro cs ts behind closed
    have step := Scans.mark (c := '-') (by decide) (ih behind closed)
    rw [atPunctuation_text inner] at step
    simp only [text, tokens, String.toList_append, List.append_assoc, List.cons_append] at step ⊢
    exact step
  | @arith op a b lhs rhs _ _ _ _ _ ihLeft ihRight =>
    intro cs ts behind closed
    have step := ihLeft (.blank _)
      (Scans.operator op (head_text rhs cs) (ihRight behind closed))
    simp only [text, tokens, String.toList_append, op.toList_symbol, List.append_assoc,
      List.cons_append] at step ⊢
    exact step
  | @range lo hi lower upper _ _ _ ihLower ihUpper =>
    intro cs ts behind closed
    have dots : Scans ('.' :: '.' :: ((boundText hi).toList ++ cs))
        (.punct '.' true :: .punct '.' (boundLeads hi (atPunctuation cs)) ::
          (boundTokens hi (atPunctuation cs) ++ ts)) := by
      cases hi with
      | none => exact closed.dots
      | some y =>
        have step := (ihUpper y rfl behind closed).dots
        rw [atPunctuation_text (upper y rfl)] at step
        exact step
    cases lo with
    | none =>
      simp only [text, tokens, boundText, boundTokens, String.toList_append, List.append_assoc]
      exact dots
    | some y =>
      have step := ihLower y rfl (.dots _) dots
      simp only [text, tokens, boundText, boundTokens, String.toList_append, List.append_assoc,
        List.cons_append] at step ⊢
      exact step

/-! ### Whole texts -/

theorem balanced_punct (pending : List Delimiter) (c : Char) (joint : Bool) (ts : List Token) :
    balanced pending (.punct c joint :: ts) = balanced pending ts := by
  cases pending <;> rfl

theorem balanced_opening (pending : List Delimiter) (d : Delimiter) (ts : List Token) :
    balanced pending (.opening d :: ts) = balanced (d :: pending) ts := by
  cases pending <;> rfl

theorem balanced_closing (pending : List Delimiter) (d : Delimiter) (ts : List Token) :
    balanced (d :: pending) (.closing d :: ts) = balanced pending ts := by
  show (d == d && balanced pending ts) = _
  rw [beq_self_eq_true, Bool.true_and]

mutual

/-- The brackets of a written form close each other. -/
theorem balanced_tokens : ∀ (x : Operand) (joint : Bool) (pending : List Delimiter)
    (ts : List Token), balanced pending (x.tokens joint ++ ts) = balanced pending ts
  | .int .., _, pending, ts => by cases pending <;> rfl
  | .range lo hi l, joint, pending, ts => by
    simp only [tokens, List.append_assoc, List.cons_append, balanced_boundTokens lo,
      balanced_punct, balanced_boundTokens hi]
  | .view .., _, _, _ => rfl
  | .list items _ _, _, pending, ts => by
    simp only [tokens, List.append_assoc, List.cons_append, List.nil_append, balanced_opening,
      balanced_itemsTokens items, balanced_closing]
  | .spread x l, joint, pending, ts => by
    simp only [tokens, List.cons_append, balanced_punct, balanced_tokens x]
  | .group x l, joint, pending, ts => by
    simp only [tokens, List.append_assoc, List.cons_append, List.nil_append, balanced_opening,
      balanced_tokens x, balanced_closing]
  | .neg x l, joint, pending, ts => by
    simp only [tokens, List.cons_append, balanced_punct, balanced_tokens x]
  | .arith op a b l, joint, pending, ts => by
    simp only [tokens, List.append_assoc, List.cons_append, balanced_tokens a, balanced_punct,
      balanced_tokens b]

theorem balanced_boundTokens : ∀ (bound : Option Operand) (joint : Bool)
    (pending : List Delimiter) (ts : List Token),
    balanced pending (boundTokens bound joint ++ ts) = balanced pending ts
  | none, _, _, _ => rfl
  | some x, joint, pending, ts => balanced_tokens x joint pending ts

theorem balanced_itemsTokens : ∀ (items : List Operand) (pending : List Delimiter)
    (ts : List Token), balanced pending (itemsTokens items ++ ts) = balanced pending ts
  | [], _, _ => rfl
  | [x], pending, ts => balanced_tokens x false pending ts
  | x :: y :: rest, pending, ts => by
    simp only [itemsTokens, List.append_assoc, List.cons_append, balanced_tokens x,
      balanced_punct, balanced_itemsTokens (y :: rest)]

end

/-- No byte order mark begins the text of an operand. -/
theorem tokens?_of_head {text : String} {leads : Bool} (head : Head leads text.toList) :
    tokens? text =
      (scan? (text.toList.length + 1) text.toList).bind fun tokens =>
        if balanced [] tokens = true then some tokens else none := by
  rw [tokens?]
  generalize text.toList = cs at head ⊢
  cases head with
  | digit digit => cases digit <;> rfl
  | _ => rfl

/-- **The tokens of a text** are those of the written form. -/
theorem tokens?_text {x : Operand} (h : x.Canonical) : tokens? x.text = some (x.tokens false) := by
  have head := head_text h []
  have scanned := scans_text h .none .nil
  have closes := balanced_tokens x false [] []
  rw [List.append_nil] at head closes
  rw [List.append_nil, List.append_nil] at scanned
  rw [tokens?_of_head head, scanned _ (Nat.lt_succ_self _), Option.bind_some]
  exact if_pos closes

end ArrayCells.Source
