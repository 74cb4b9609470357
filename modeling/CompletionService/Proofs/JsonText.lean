import CompletionService.Json.Reader
import Mathlib.Data.List.Basic

/-!
# What is written is read

The readers of JSON texts give back what the printer writes, as far as it has no fractions. Every
statement keeps what is unread: a written part, followed by anything that does not go on with it, is
read as that part, and the rest is left. Three layers:

* strings — one character (`readStringFrom_escapeChar`), then all (`readString_writeString`);
* numbers — digits (`takeDigits_append`), then whole numbers (`readNumber_toDigits`);
* the inside of containers — one item or member, then the loop over all. The loop over members does
  not know what is collected; `Collects` says that of a reader of one member.
-/

namespace CompletionService.Json

open Text Number

-- a power is that of the core library, whatever else is imported
attribute [local instance (high)] instPowNat

variable {steps : Nat} {rest : List Char}

/-! ## Strings -/

theorem number?_hexPair : ∀ n < 0x20, Text.number? 16 ('0' :: '0' :: hexPair n) = some n := by
  decide

/-- The code of a control character is read. -/
theorem readHex_hexPair {n : Nat} (h : n < 0x20) (rest : List Char) :
    readHex ('0' :: '0' :: (hexPair n ++ rest)) = .ok (n, rest) := by
  have htake : ('0' :: '0' :: (hexPair n ++ rest)).take 4 = '0' :: '0' :: hexPair n := rfl
  rw [readHex, htake, number?_hexPair n h]
  rfl

/-- A control character is read from its code, which is no half of a surrogate pair. -/
theorem readEscape_control {c : Char} (h : c.toNat < 0x20) (rest : List Char) :
    readEscape ('u' :: '0' :: '0' :: (hexPair c.toNat ++ rest)) = .ok (c, rest) := by
  have htrailing : isTrailing c.toNat = false := by
    simp only [isTrailing, Bool.and_eq_false_imp, decide_eq_true_eq]
    omega
  have hleading : isLeading c.toNat = false := by
    simp only [isLeading, Bool.and_eq_false_imp, decide_eq_true_eq]
    omega
  simp only [readEscape, readHex_hexPair h, bind, Except.bind, htrailing, hleading,
    Char.ofNat_toNat, Bool.false_eq_true, if_false]

/-- **One character**: it is read in one step, whatever class it is escaped in. -/
theorem readStringFrom_escapeChar (steps : Nat) (before : List Char) (c : Char)
    (rest : List Char) :
    readStringFrom (steps + 1) before (escapeChar c ++ rest) =
      readStringFrom steps (c :: before) rest := by
  unfold escapeChar
  split
  case h_8 hquote hbackslash _ _ _ _ _ =>
    split
    · rename_i hlow
      have hread : readEscape ('u' :: '0' :: '0' :: hexPair c.toNat ++ rest) = .ok (c, rest) :=
        readEscape_control hlow rest
      rw [List.cons_append, readStringFrom, if_neg (by decide), if_pos rfl, hread]
      rfl
    · rename_i hlow
      rw [List.singleton_append, readStringFrom, if_neg hquote, if_neg hbackslash, if_neg hlow]
  all_goals rfl

theorem length_escapeChar_pos (c : Char) : 0 < (escapeChar c).length := by
  unfold escapeChar
  split
  case h_8 => split <;> exact Nat.succ_pos _
  all_goals exact Nat.succ_pos _

/-- **All characters**, up to the quote that closes the string. -/
theorem readStringFrom_flatMap (before cs : List Char)
    (h : (cs.flatMap escapeChar).length < steps) :
    readStringFrom steps before (cs.flatMap escapeChar ++ '"' :: rest) =
      .ok (String.ofList (before.reverse ++ cs), rest) := by
  induction cs generalizing before steps with
  | nil =>
    obtain ⟨steps, rfl⟩ := Nat.exists_eq_succ_of_ne_zero (Nat.ne_of_gt h)
    rw [List.append_nil]
    rfl
  | cons c cs ih =>
    have hpos := length_escapeChar_pos c
    rw [List.flatMap_cons, List.length_append] at h
    obtain ⟨steps, rfl⟩ := Nat.exists_eq_succ_of_ne_zero (Nat.ne_of_gt (Nat.zero_lt_of_lt h))
    rw [List.flatMap_cons, List.append_assoc, readStringFrom_escapeChar,
      ih (c :: before) (by omega), List.reverse_cons, List.append_assoc, List.singleton_append]

/-- A string is read, after its opening quote. -/
theorem readString_writeString (s : String) (h : (writeString s).length ≤ steps + 1) :
    readString steps (s.toList.flatMap escapeChar ++ '"' :: rest) = .ok (s, rest) := by
  have hlength : (s.toList.flatMap escapeChar).length < steps := by
    simp only [writeString, List.length_cons, List.length_append, List.length_nil] at h
    omega
  rw [readString, readStringFrom_flatMap [] _ hlength, List.reverse_nil, List.nil_append,
    String.ofList_toList]

/-! ## Numbers -/

/-- What can follow a number: nothing that would go on with it. -/
def Stops : List Char → Prop
  | [] => True
  | c :: _ => c.isDigit = false ∧ c ≠ '.' ∧ c ≠ 'e' ∧ c ≠ 'E'

theorem stops_bracket (rest : List Char) : Stops (']' :: rest) :=
  ⟨rfl, by decide, by decide, by decide⟩

theorem stops_brace (rest : List Char) : Stops ('}' :: rest) :=
  ⟨rfl, by decide, by decide, by decide⟩

theorem Stops.startsWithDigit_eq (h : Stops rest) : startsWithDigit rest = false := by
  cases rest with
  | nil => rfl
  | cons c rest => exact h.1

/-- **Digits**: all are taken, if the numeral stays below the limit. -/
theorem takeDigits_append {digits : List Char} (hdigits : ∀ c ∈ digits, c.isDigit = true)
    (hstops : Stops rest) {limit numeral count : Nat}
    (h : Nat.ofDigitChars 10 digits numeral < limit) :
    takeDigits limit numeral count (digits ++ rest) =
      (Nat.ofDigitChars 10 digits numeral, count + digits.length, rest) := by
  induction digits generalizing numeral count with
  | nil =>
    cases rest with
    | nil => rfl
    | cons c rest => simp [takeDigits, hstops.1]
  | cons c digits ih =>
    obtain ⟨hdigit, hothers⟩ := List.forall_mem_cons.mp hdigits
    have hnext : 10 * numeral + (c.toNat - '0'.toNat) = numeral * 10 + digitValue c := by
      rw [Nat.mul_comm, digitValue]
    rw [Nat.ofDigitChars_cons, hnext] at h ⊢
    -- what comes of the first digits is at most what comes of all
    have hlt : numeral * 10 + digitValue c < limit := by
      refine Nat.lt_of_le_of_lt ?_ h
      rw [Nat.ofDigitChars_eq_ofDigitChars_zero]
      exact Nat.le_add_right_of_le (Nat.le_mul_of_pos_left _ (Nat.pow_pos (by decide)))
    rw [List.cons_append, takeDigits]
    simp only [hdigit, if_true, if_pos hlt]
    rw [ih hothers h, List.length_cons, Nat.add_assoc, Nat.add_comm 1]

/-- Only the numeral of zero begins with a zero. -/
theorem exists_toDigits_eq_cons {n : Nat} (h : n ≠ 0) :
    ∃ c cs, Nat.toDigits 10 n = c :: cs ∧ c ≠ '0' := by
  induction n using Nat.strongRecOn with
  | ind n ih =>
    rw [Nat.toDigits_eq_if (by decide)]
    split
    · exact ⟨_, [], rfl, fun hzero => h (Nat.digitChar_eq_zero.mp hzero)⟩
    · obtain ⟨c, cs, hcons, hne⟩ := ih (n / 10) (by omega) (by omega)
      exact ⟨c, cs ++ [Nat.digitChar (n % 10)], by rw [hcons]; rfl, hne⟩

theorem ofInt?_val (n : Whole) : Whole.ofInt? n.val = some n := by
  rw [Whole.ofInt?, dif_pos ⟨n.lower, n.upper⟩]

/-- A whole part that nothing goes on with is a whole number. -/
theorem readAfterWhole_of_stops (hstops : Stops rest) {negative : Bool} {significand : Nat}
    {n : Whole} (hzero : negative = true → significand ≠ 0)
    (hval : n.val = if negative then -(significand : Int) else significand) :
    readAfterWhole negative significand rest = .ok (.whole n, rest) := by
  have hwhole : ¬ (negative = true ∧ significand = 0) := fun h => hzero h.1 h.2
  unfold readAfterWhole
  split
  · exact absurd rfl hstops.2.1
  · exact absurd rfl hstops.2.2.1
  · exact absurd rfl hstops.2.2.2
  · simp only [if_neg hwhole, ← hval, ofInt?_val]

/-- **Whole numbers** are read from their digits, after the sign. -/
theorem readNumber_toDigits (hstops : Stops rest) {negative : Bool} {significand : Nat}
    (hlt : significand < significandLimit) {n : Whole}
    (hzero : negative = true → significand ≠ 0)
    (hval : n.val = if negative then -(significand : Int) else significand) :
    readNumber negative (Nat.toDigits 10 significand ++ rest) = .ok (.whole n, rest) := by
  by_cases hsig : significand = 0
  · subst hsig
    rw [Nat.toDigits_zero, List.singleton_append, readNumber, if_pos rfl,
      hstops.startsWithDigit_eq, if_neg Bool.false_ne_true,
      readAfterWhole_of_stops hstops hzero hval]
  · obtain ⟨c, cs, hcons, hne⟩ := exists_toDigits_eq_cons hsig
    have hdigits : ∀ d ∈ c :: cs, d.isDigit = true := by
      rw [← hcons]
      exact fun d => Nat.isDigit_of_mem_toDigits (by decide) (by decide)
    obtain ⟨hdigit, hothers⟩ := List.forall_mem_cons.mp hdigits
    have hvalue : Nat.ofDigitChars 10 cs (digitValue c) = significand := by
      rw [← Nat.ofDigitChars_ten_toDigits (n := significand), hcons, Nat.ofDigitChars_cons,
        Nat.mul_zero, Nat.zero_add]
      rfl
    have htake : takeDigits significandLimit (digitValue c) 1 (cs ++ rest) =
        (significand, 1 + cs.length, rest) := by
      rw [takeDigits_append hothers hstops (by rwa [hvalue]), hvalue]
    rw [hcons, List.cons_append, readNumber, if_neg hne, if_pos hdigit, htake]
    simp only [hstops.startsWithDigit_eq, Bool.false_eq_true, if_false,
      readAfterWhole_of_stops hstops hzero hval]

/-! ## Values without parts -/

theorem skipBlank_cons {c : Char} (h : isBlank c = false) (cs : List Char) :
    skipBlank (c :: cs) = c :: cs := by
  rw [skipBlank, List.dropWhile_cons_of_neg (by rw [h]; exact Bool.false_ne_true)]

theorem ne_of_isDigit {c d : Char} (h : c.isDigit = true) (hd : d.isDigit = false) : c ≠ d := by
  rintro rfl
  exact Bool.false_ne_true (hd.symm.trans h)

theorem isBlank_of_isDigit {c : Char} (h : c.isDigit = true) : isBlank c = false := by
  cases hblank : isBlank c with
  | false => rfl
  | true =>
    simp only [isBlank, Bool.or_eq_true, beq_iff_eq] at hblank
    rcases hblank with ((rfl | rfl) | rfl) | rfl <;> exact absurd h (by decide)

/-- An integer begins with a sign or a digit. -/
theorem exists_writeInt_eq_cons (n : Int) :
    ∃ c cs, writeInt n = c :: cs ∧ (c = '-' ∨ c.isDigit = true) := by
  rw [writeInt]
  split
  · exact ⟨_, _, rfl, .inl rfl⟩
  · obtain ⟨c, cs, hcons⟩ := List.exists_cons_of_ne_nil
      (Nat.toDigits_ne_nil (b := 10) (n := n.natAbs))
    exact ⟨c, cs, hcons, .inr (Nat.isDigit_of_mem_toDigits (by decide) (by decide)
      (hcons ▸ List.mem_cons_self))⟩

/-- An integer does not begin like `null`. -/
theorem head?_writeInt_ne (n : Int) : (writeInt n).head? ≠ some 'n' := by
  obtain ⟨c, cs, hcons, rfl | hdigit⟩ := exists_writeInt_eq_cons n
  · rw [hcons, List.head?_cons]
    decide
  · rw [hcons, List.head?_cons]
    exact fun h => ne_of_isDigit hdigit (by decide) (Option.some.inj h)

/-- A string is read as a value. -/
theorem readValue_string (depth : Nat) (s : String) (h : (writeString s).length ≤ steps + 1) :
    readValue steps depth (writeString s ++ rest) = .ok (.string s, rest) := by
  rw [writeString, List.cons_append, List.append_assoc, List.singleton_append, readValue]
  simp only [skipBlank_cons (show isBlank '"' = false by decide)]
  simp [readString_writeString s h, bind, Except.bind]

/-- A digit begins a number. -/
theorem readValue_digit (depth : Nat) {c : Char} (h : c.isDigit = true) (cs : List Char) :
    readValue steps depth (c :: cs) = readNumber false (c :: cs) := by
  rw [readValue]
  simp only [skipBlank_cons (isBlank_of_isDigit h),
    if_neg (ne_of_isDigit h (d := 'n') (by decide)),
    if_neg (ne_of_isDigit h (d := 't') (by decide)),
    if_neg (ne_of_isDigit h (d := 'f') (by decide)),
    if_neg (ne_of_isDigit h (d := '-') (by decide)), if_pos h]

/-- A whole number is read as a value. -/
theorem readValue_whole (depth : Nat) (n : Whole) (hstops : Stops rest) :
    readValue steps depth (writeInt n.val ++ rest) = .ok (.whole n, rest) := by
  have hlower := n.lower
  have hupper := n.upper
  have hlt : n.val.natAbs < significandLimit := by
    simp only [significandLimit]
    omega
  rw [writeInt]
  split
  · rename_i hneg
    have hread : readNumber true (Nat.toDigits 10 n.val.natAbs ++ rest) = .ok (.whole n, rest) :=
      readNumber_toDigits hstops hlt (by omega) (by rw [if_pos rfl]; omega)
    rw [List.cons_append, readValue]
    simp [skipBlank_cons (show isBlank '-' = false by decide), hread]
  · rename_i hneg
    obtain ⟨c, cs, hcons⟩ := List.exists_cons_of_ne_nil
      (Nat.toDigits_ne_nil (b := 10) (n := n.val.natAbs))
    have hdigit : c.isDigit = true :=
      Nat.isDigit_of_mem_toDigits (by decide) (by decide) (hcons ▸ List.mem_cons_self)
    rw [hcons, List.cons_append, readValue_digit depth hdigit, ← List.cons_append, ← hcons]
    exact readNumber_toDigits hstops hlt (fun h => absurd h Bool.false_ne_true)
      (by rw [if_neg Bool.false_ne_true]; omega)

/-! ## The inside of containers -/

/-- A text that begins like a value: with no white space, and with no bracket that closes. -/
def Opens : List Char → Prop
  | [] => False
  | c :: _ => isBlank c = false ∧ c ≠ ']'

theorem Opens.exists_eq_cons {text : List Char} (h : Opens text) :
    ∃ c cs, text = c :: cs ∧ isBlank c = false ∧ c ≠ ']' := by
  cases text with
  | nil => exact h.elim
  | cons c cs => exact ⟨c, cs, rfl, h.1, h.2⟩

section

variable {α : Type} (write : α → List Char)

/-- After the first item, every item has a comma before it. -/
theorem commaSeparated_map_cons (a : α) (items : List α) :
    commaSeparated ((a :: items).map write) =
      write a ++ items.flatMap fun a => ',' :: write a := by
  induction items generalizing a with
  | nil => exact (List.append_nil _).symm
  | cons next items ih => exact congrArg (write a ++ ',' :: ·) (ih next)

/-- What comes after an item does not go on with a number. -/
theorem stops_flatMap (items : List α) {closing : Char} (h : Stops (closing :: rest)) :
    Stops (items.flatMap (fun a => ',' :: write a) ++ closing :: rest) := by
  cases items with
  | nil => exact h
  | cons a items => exact ⟨rfl, by decide, by decide, by decide⟩

end

/-- No item is longer than all of them. -/
theorem length_le_commaSeparated {items : List (List Char)} {item : List Char}
    (h : item ∈ items) : item.length ≤ (commaSeparated items).length := by
  induction items with
  | nil => exact nomatch h
  | cons first items ih =>
    cases items with
    | nil =>
      obtain rfl := List.mem_singleton.mp h
      exact Nat.le_refl _
    | cons next items =>
      change _ ≤ (first ++ ',' :: commaSeparated (next :: items)).length
      rw [List.length_append, List.length_cons]
      rcases List.mem_cons.mp h with rfl | hmem
      · omega
      · have := ih hmem
        omega

section

variable {α : Type} {item : List Char → Except Fault (α × List Char)} {text : List Char} {a : α}
  {before : List α}

theorem readItemsFrom_first (hopens : Opens text) (h : item (text ++ rest) = .ok (a, rest)) :
    readItemsFrom item (steps + 1) [] (text ++ rest) = readItemsFrom item steps [a] rest := by
  obtain ⟨c, cs, rfl, hblank, hbracket⟩ := hopens.exists_eq_cons
  rw [List.cons_append] at h ⊢
  rw [readItemsFrom]
  simp [skipBlank_cons hblank, h, bind, Except.bind]

theorem readItemsFrom_next (hopens : Opens text) (h : item (text ++ rest) = .ok (a, rest))
    (hne : before ≠ []) :
    readItemsFrom item (steps + 1) before (',' :: (text ++ rest)) =
      readItemsFrom item steps (a :: before) rest := by
  obtain ⟨c, cs, rfl, hblank, hbracket⟩ := hopens.exists_eq_cons
  rw [List.cons_append] at h ⊢
  rw [readItemsFrom]
  simp [skipBlank_cons (show isBlank ',' = false by decide), skipBlank_cons hblank, h, bind,
    Except.bind, hbracket, hne]

section

variable {write : α → List Char} {items : List α} (hopens : ∀ a ∈ items, Opens (write a))
  (h : ∀ a ∈ items, ∀ {rest}, Stops rest → item (write a ++ rest) = .ok (a, rest))
include hopens h

/-- **Loop**: the items after the first are read one after the other. -/
theorem readItemsFrom_flatMap (hne : before ≠ [])
    (hsteps : (items.flatMap fun a => ',' :: write a).length < steps) :
    readItemsFrom item steps before (items.flatMap (fun a => ',' :: write a) ++ ']' :: rest) =
      .ok (before.reverse ++ items, ']' :: rest) := by
  induction items generalizing before steps with
  | nil =>
    obtain ⟨steps, rfl⟩ := Nat.exists_eq_succ_of_ne_zero (Nat.ne_of_gt hsteps)
    rw [List.flatMap_nil, List.append_nil]
    rfl
  | cons a items ih =>
    obtain ⟨steps, rfl⟩ := Nat.exists_eq_succ_of_ne_zero (Nat.ne_of_gt (Nat.zero_lt_of_lt hsteps))
    rw [List.forall_mem_cons] at hopens h
    rw [List.flatMap_cons, List.length_append, List.length_cons] at hsteps
    have hstops : Stops (items.flatMap (fun a => ',' :: write a) ++ ']' :: rest) :=
      stops_flatMap write items (stops_bracket rest)
    rw [List.flatMap_cons, List.append_assoc, List.cons_append,
      readItemsFrom_next hopens.1 (h.1 hstops) hne,
      ih hopens.2 h.2 (List.cons_ne_nil _ _) (by omega), List.reverse_cons, List.append_assoc,
      List.singleton_append]

/-- The items of an array are read. -/
theorem readItemsFrom_commaSeparated
    (hsteps : (commaSeparated (items.map write)).length < steps) :
    readItemsFrom item steps [] (commaSeparated (items.map write) ++ ']' :: rest) =
      .ok (items, ']' :: rest) := by
  obtain ⟨steps, rfl⟩ := Nat.exists_eq_succ_of_ne_zero (Nat.ne_of_gt (Nat.zero_lt_of_lt hsteps))
  cases items with
  | nil => rfl
  | cons a items =>
    rw [List.forall_mem_cons] at hopens h
    rw [commaSeparated_map_cons, List.length_append] at hsteps
    have hpos : 0 < (write a).length := by
      obtain ⟨c, cs, hcons, -⟩ := hopens.1.exists_eq_cons
      rw [hcons]
      exact Nat.succ_pos _
    rw [commaSeparated_map_cons, List.append_assoc,
      readItemsFrom_first hopens.1 (h.1 (stops_flatMap write items (stops_bracket rest))),
      readItemsFrom_flatMap hopens.2 h.2 (List.cons_ne_nil _ _) (by omega),
      List.reverse_singleton, List.singleton_append]

end

end

section

variable {σ : Type} {member : String → σ → List Char → Except Fault (σ × List Char)} {key : String}
  {collected next last : σ} {value : List Char} {members : List (String × List Char)}

/-- The text of a member, whose value is a text already. -/
def writeMember (m : String × List Char) : List Char := writeString m.1 ++ ':' :: m.2

theorem length_lt_writeMember (m : String × List Char) : m.2.length < (writeMember m).length := by
  rw [writeMember, List.length_append, List.length_cons]
  omega

theorem readMembersFrom_first (hkey : (writeString key).length ≤ steps + 1)
    (h : member key collected (':' :: (value ++ rest)) = .ok (next, rest)) :
    readMembersFrom member (steps + 1) true collected
        (writeString key ++ ':' :: value ++ rest) =
      readMembersFrom member steps false next rest := by
  rw [writeString, readMembersFrom]
  simp [skipBlank_cons (show isBlank '"' = false by decide), readString_writeString key hkey, h,
    bind, Except.bind]

theorem readMembersFrom_next (hkey : (writeString key).length ≤ steps + 1)
    (h : member key collected (':' :: (value ++ rest)) = .ok (next, rest)) :
    readMembersFrom member (steps + 1) false collected
        (',' :: (writeString key ++ ':' :: value ++ rest)) =
      readMembersFrom member steps false next rest := by
  rw [writeString, readMembersFrom]
  simp [skipBlank_cons (show isBlank '"' = false by decide),
    skipBlank_cons (show isBlank ',' = false by decide), readString_writeString key hkey, h,
    bind, Except.bind]

/-- The members are collected one after the other, whatever comes after each of them. -/
inductive Collects (member : String → σ → List Char → Except Fault (σ × List Char)) :
    σ → List (String × List Char) → σ → Prop
  | nil (collected : σ) : Collects member collected [] collected
  | cons {key : String} {value : List Char} {members : List (String × List Char)}
      {collected next last : σ}
      (first : ∀ {rest}, Stops rest →
        member key collected (':' :: (value ++ rest)) = .ok (next, rest))
      (others : Collects member next members last) :
      Collects member collected ((key, value) :: members) last

namespace Collects

variable (h : Collects member collected members last)
include h

/-- **Loop**: the members after the first are read one after the other. -/
theorem readMembersFrom_flatMap
    (hsteps : (members.flatMap fun m => ',' :: writeMember m).length < steps) :
    readMembersFrom member steps false collected
        (members.flatMap (fun m => ',' :: writeMember m) ++ '}' :: rest) =
      .ok (last, '}' :: rest) := by
  induction h generalizing steps with
  | nil collected =>
    obtain ⟨steps, rfl⟩ := Nat.exists_eq_succ_of_ne_zero (Nat.ne_of_gt hsteps)
    rfl
  | @cons key value members collected next last hfirst hothers ih =>
    obtain ⟨steps, rfl⟩ := Nat.exists_eq_succ_of_ne_zero (Nat.ne_of_gt (Nat.zero_lt_of_lt hsteps))
    simp only [List.flatMap_cons, List.length_append, List.length_cons, writeMember] at hsteps
    have hstops : Stops (members.flatMap (fun m => ',' :: writeMember m) ++ '}' :: rest) :=
      stops_flatMap writeMember members (stops_brace rest)
    rw [List.flatMap_cons, List.append_assoc, List.cons_append, writeMember,
      readMembersFrom_next (by omega) (hfirst hstops), ih (by simp only [writeMember]; omega)]

/-- The members of an object are read. -/
theorem readMembersFrom_commaSeparated
    (hsteps : (commaSeparated (members.map writeMember)).length < steps) :
    readMembersFrom member steps true collected
        (commaSeparated (members.map writeMember) ++ '}' :: rest) =
      .ok (last, '}' :: rest) := by
  obtain ⟨steps, rfl⟩ := Nat.exists_eq_succ_of_ne_zero (Nat.ne_of_gt (Nat.zero_lt_of_lt hsteps))
  cases h with
  | nil => rfl
  | @cons key value members _ next _ hfirst hothers =>
    rw [commaSeparated_map_cons, List.length_append] at hsteps
    have hkey : (writeMember (key, value)).length = (writeString key).length + (value.length + 1) :=
      List.length_append
    rw [commaSeparated_map_cons, List.append_assoc, writeMember,
      readMembersFrom_first (by omega) (hfirst (stops_flatMap writeMember members
        (stops_brace rest))), hothers.readMembersFrom_flatMap (by omega)]

end Collects

end

end CompletionService.Json
