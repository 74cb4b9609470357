import CompletionService.Json.Decode
import CompletionService.Proofs.Steps
import Mathlib.Data.List.Forall2

/-!
# What JSON values stand for

The types that the fields of records have, and for each of them:

* `FieldType.Denotes` — the value that a JSON value stands for, if it stands for one. This is the
  rule; what decodes is exactly what it says (`FieldType.decode_eq_ok_iff`), so a JSON value stands
  for at most one value (`FieldType.Denotes.unique`).
* `FieldType.Accepts` — the JSON values that stand for something (`FieldType.accepts_iff`): whole
  numbers in range for numbers that count, any number for reals, `null` for what may be absent.
* `FieldType.encode` — the JSON value that is written for a value. It stands for that value, unless
  the value is an infinity, for which `null` is written (`FieldType.denotes_encode_iff`).

A value of a plain type is written in one way (`PlainType.denotes_iff`). Reals can also be given as
whole numbers, and texts that may be many also as one text or as `null`.
-/

namespace CompletionService

open Number Json

-- a power is that of the core library, whatever else is imported
attribute [local instance (high)] instPowNat

/-! ## Plain types -/

/-- The types of which a value is written in one way. -/
inductive PlainType
  /-- a natural number that can count things in memory -/
  | size
  | natural64
  | natural32
  | integer32
  | boolean
  | string

namespace PlainType

/-- The values of a type. -/
abbrev Value : PlainType → Type
  | size | natural64 => UInt64
  | natural32 => UInt32
  | integer32 => Int32
  | boolean => Bool
  | string => String

/-- The value that a JSON value stands for. Only whole numbers stand for whole numbers: `1.0` does
not, though it is equal to one. -/
def Denotes : (type : PlainType) → Json → type.Value → Prop
  | size, j, n | natural64, j, n => ∃ w : Whole, j = .whole w ∧ w.val = n.toNat
  | natural32, j, n => ∃ w : Whole, j = .whole w ∧ w.val = n.toNat
  | integer32, j, n => ∃ w : Whole, j = .whole w ∧ w.val = n.toInt
  | boolean, j, b => j = .boolean b
  | string, j, s => j = .string s

/-- The JSON values that stand for a value of the type. -/
def Accepts : PlainType → Json → Prop
  | size, j | natural64, j => ∃ w : Whole, j = .whole w ∧ 0 ≤ w.val ∧ w.val < 2 ^ (64 : Nat)
  | natural32, j => ∃ w : Whole, j = .whole w ∧ 0 ≤ w.val ∧ w.val < 2 ^ (32 : Nat)
  | integer32, j => ∃ w : Whole, j = .whole w ∧ -2 ^ (31 : Nat) ≤ w.val ∧ w.val < 2 ^ (31 : Nat)
  | boolean, j => ∃ b, j = .boolean b
  | string, j => ∃ s, j = .string s

/-- The value of a type, from JSON. -/
def decode : (type : PlainType) → Json → Except Mismatch type.Value
  | size => Decode.size
  | natural64 => Decode.natural64
  | natural32 => Decode.natural32
  | integer32 => Decode.integer32
  | boolean => Decode.boolean
  | string => Decode.string

/-- What is written for a value. -/
def encode : (type : PlainType) → type.Value → Json
  | size => ofUInt64
  | natural64 => ofUInt64
  | natural32 => ofUInt32
  | integer32 => ofInt32
  | boolean => .boolean
  | string => .string

end PlainType

/-! ## Numbers -/

namespace Decode

section

variable {α : Type} {lower upper : Int} {wanted : Wanted} {j : Json}

/-- A whole number is decoded if it is in range. -/
theorem wholeIn_eq_ok_iff {n : Int} : wholeIn lower upper wanted j = .ok n ↔
    ∃ w : Whole, j = .whole w ∧ w.val = n ∧ lower ≤ n ∧ n < upper := by
  constructor
  · intro h
    unfold wholeIn at h
    split at h
    · rename_i w
      split at h
      · rename_i hrange
        obtain rfl := Except.ok.inj h
        exact ⟨w, rfl, rfl, hrange⟩
      · exact nomatch h
    · exact nomatch h
  · rintro ⟨w, rfl, rfl, hrange⟩
    simp only [wholeIn, if_pos hrange]

/-- Whole numbers in range can be decoded, whatever is made of them. -/
theorem exists_map_wholeIn_iff (ofInt : Int → α) :
    (∃ a, ofInt <$> wholeIn lower upper wanted j = .ok a) ↔
      ∃ w : Whole, j = .whole w ∧ lower ≤ w.val ∧ w.val < upper := by
  simp only [map_eq_ok_iff, wholeIn_eq_ok_iff]
  constructor
  · rintro ⟨-, n, ⟨w, rfl, rfl, hrange⟩, -⟩
    exact ⟨w, rfl, hrange⟩
  · rintro ⟨w, rfl, hrange⟩
    exact ⟨_, w.val, ⟨w, rfl, rfl, hrange⟩, rfl⟩

/-- A type whose values are the whole numbers in a range. -/
theorem map_wholeIn_eq_ok_iff {ofInt : Int → α} (toInt : α → Int)
    (hrange : ∀ a, lower ≤ toInt a ∧ toInt a < upper) (hof : ∀ a, ofInt (toInt a) = a)
    (hto : ∀ n, lower ≤ n → n < upper → toInt (ofInt n) = n) {a : α} :
    ofInt <$> wholeIn lower upper wanted j = .ok a ↔
      ∃ w : Whole, j = .whole w ∧ w.val = toInt a := by
  simp only [map_eq_ok_iff, wholeIn_eq_ok_iff]
  constructor
  · rintro ⟨n, ⟨w, rfl, rfl, hlower, hupper⟩, rfl⟩
    exact ⟨w, rfl, (hto w.val hlower hupper).symm⟩
  · rintro ⟨w, rfl, hval⟩
    exact ⟨w.val, ⟨w, rfl, rfl, hval ▸ hrange a⟩, hval ▸ hof a⟩

end

section

variable {j : Json}

/-- The whole numbers of 64 bits, whatever they are wanted for. -/
theorem map_wholeIn_uint64_eq_ok_iff (wanted : Wanted) {n : UInt64} :
    (fun m : Int => UInt64.ofNat m.toNat) <$> wholeIn 0 (2 ^ (64 : Nat)) wanted j = .ok n ↔
      ∃ w : Whole, j = .whole w ∧ w.val = n.toNat := by
  refine map_wholeIn_eq_ok_iff (fun n : UInt64 => n.toNat) (fun n => ?_) (fun n => ?_) ?_
  · have hlt := n.toNat_lt
    omega
  · rw [Int.toNat_natCast]
    exact n.ofNat_toNat
  · intro m hlower hupper
    rw [UInt64.toNat_ofNat', Nat.mod_eq_of_lt (by omega), Int.toNat_of_nonneg hlower]

theorem natural32_eq_ok_iff {n : UInt32} :
    natural32 j = .ok n ↔ ∃ w : Whole, j = .whole w ∧ w.val = n.toNat := by
  refine map_wholeIn_eq_ok_iff (fun n : UInt32 => n.toNat) (fun n => ?_) (fun n => ?_) ?_
  · have hlt := n.toNat_lt
    omega
  · rw [Int.toNat_natCast]
    exact n.ofNat_toNat
  · intro m hlower hupper
    rw [UInt32.toNat_ofNat', Nat.mod_eq_of_lt (by omega), Int.toNat_of_nonneg hlower]

theorem integer32_eq_ok_iff {n : Int32} :
    integer32 j = .ok n ↔ ∃ w : Whole, j = .whole w ∧ w.val = n.toInt := by
  refine map_wholeIn_eq_ok_iff Int32.toInt (fun n => ⟨n.le_toInt, n.toInt_lt⟩)
    (fun n => n.ofInt_toInt) ?_
  intro m hlower hupper
  exact Int32.toInt_ofInt_of_le hlower hupper

end

/-- Every item is decoded. -/
theorem items_eq_ok_iff {α : Type} {decode : Json → Except Mismatch α} {js : List Json}
    {values : List α} :
    items decode js = .ok values ↔ List.Forall₂ (fun j a => decode j = .ok a) js values := by
  induction js generalizing values with
  | nil => cases values <;> simp [items]
  | cons j js ih =>
    simp only [items, bind_eq_ok_iff, pure, Except.pure, Except.ok.injEq, ih]
    constructor
    · rintro ⟨a, ha, others, hothers, rfl⟩
      exact .cons ha hothers
    · rintro (_ | ⟨ha, hothers⟩)
      exact ⟨_, ha, _, hothers, rfl⟩

end Decode

namespace PlainType

variable {type : PlainType} {j : Json} {a : type.Value}

/-- **What decodes as a plain type** is what stands for one of its values. -/
theorem decode_eq_ok_iff : type.decode j = .ok a ↔ type.Denotes j a := by
  cases type with
  | size => exact Decode.map_wholeIn_uint64_eq_ok_iff .size
  | natural64 => exact Decode.map_wholeIn_uint64_eq_ok_iff (.natural 64)
  | natural32 => exact Decode.natural32_eq_ok_iff
  | integer32 => exact Decode.integer32_eq_ok_iff
  | boolean => cases j <;> simp [decode, Decode.boolean, Decode.wrongType, Denotes]
  | string => cases j <;> simp [decode, Decode.string, Decode.wrongType, Denotes]

/-- **What is accepted** is what stands for something. -/
theorem accepts_iff : type.Accepts j ↔ ∃ a, type.Denotes j a := by
  simp only [← decode_eq_ok_iff]
  cases type with
  | size | natural64 | natural32 | integer32 => exact (Decode.exists_map_wholeIn_iff _).symm
  | boolean => exact exists_congr fun b => (@decode_eq_ok_iff .boolean j b).symm
  | string => exact exists_congr fun s => (@decode_eq_ok_iff .string j s).symm

/-- Items are accepted if they stand for several values. -/
theorem forall_accepts_iff {js : List Json} :
    (∀ item ∈ js, type.Accepts item) ↔ ∃ values, List.Forall₂ type.Denotes js values := by
  induction js with
  | nil => simp
  | cons j js ih =>
    rw [List.forall_mem_cons, ih, accepts_iff]
    constructor
    · rintro ⟨⟨a, ha⟩, values, hvalues⟩
      exact ⟨a :: values, .cons ha hvalues⟩
    · rintro ⟨_, ha | ⟨ha, hvalues⟩⟩
      exact ⟨⟨_, ha⟩, _, hvalues⟩

/-- What stands for a value is what is written for it. -/
theorem denotes_iff : type.Denotes j a ↔ j = type.encode a := by
  have hwhole (w' : Whole) : (∃ w : Whole, j = .whole w ∧ w.val = w'.val) ↔ j = .whole w' := by
    constructor
    · rintro ⟨⟨n, _, _⟩, rfl, rfl⟩
      rfl
    · rintro rfl
      exact ⟨w', rfl, rfl⟩
  cases type with
  | size => exact hwhole (.ofUInt64 a)
  | natural64 => exact hwhole (.ofUInt64 a)
  | natural32 => exact hwhole (.ofUInt32 a)
  | integer32 => exact hwhole (.ofInt32 a)
  | boolean => rfl
  | string => rfl

/-- What is written for a value stands for that value alone. -/
theorem denotes_encode_iff {b : type.Value} : type.Denotes (type.encode a) b ↔ a = b := by
  have ha := decode_eq_ok_iff.mpr (denotes_iff.mpr (Eq.refl (type.encode a)))
  rw [← decode_eq_ok_iff, ha, Except.ok.injEq]

/-- It is never `null`. -/
theorem encode_ne_null (type : PlainType) (a : type.Value) : type.encode a ≠ .null := by
  cases type <;> exact nofun

/-- Items decode as the values that they stand for. -/
theorem items_decode_eq_ok_iff {js : List Json} {values : List type.Value} :
    Decode.items type.decode js = .ok values ↔ List.Forall₂ type.Denotes js values := by
  simp only [Decode.items_eq_ok_iff, decode_eq_ok_iff]

/-- What is written for several values stands for them alone. -/
theorem forall₂_denotes_map_encode_iff {values others : List type.Value} :
    List.Forall₂ type.Denotes (values.map type.encode) others ↔ values = others := by
  simp only [List.forall₂_map_left_iff, denotes_encode_iff, List.forall₂_eq_eq_eq]

/-- `null` is the absence of a value, and what decodes otherwise is there. -/
theorem nullable_decode_eq_ok_iff {a? : Option type.Value} :
    Decode.nullable type.decode j = .ok a? ↔
      match a? with
      | none => j = .null
      | some a => type.Denotes j a := by
  by_cases hnull : j = .null
  · subst hnull
    cases a? with
    | none => simp [Decode.nullable]
    | some a => simp [Decode.nullable, denotes_iff, (type.encode_ne_null a).symm]
  · rw [Decode.nullable, map_eq_ok_iff]
    · cases a? with
      | none => simp [hnull]
      | some a => simp [decode_eq_ok_iff]
    · exact hnull

end PlainType

/-! ## Types of fields -/

/-- The types of the fields of records. -/
inductive FieldType
  | plain (type : PlainType)
  | real32
  | real64
  /-- a value that may be absent -/
  | optional (type : PlainType)
  | list (type : PlainType)
  /-- texts, of which there may be one, several or none -/
  | oneOrMany

namespace FieldType

/-- The values of a type. -/
abbrev Value : FieldType → Type
  | plain type => type.Value
  | real32 => Binary binary32
  | real64 => Binary binary64
  | optional type => Option type.Value
  | list type => List type.Value
  | oneOrMany => List String

/-- The value that a JSON value stands for. Any number stands for the real next to it; `null` stands
for what is absent, and for no texts. -/
def Denotes : (type : FieldType) → Json → type.Value → Prop
  | plain type, j, a => type.Denotes j a
  | real32, j, x =>
    (∃ w : Whole, j = .whole w ∧ x = .ofInt binary32 w.val) ∨
      ∃ y : Finite binary64, j = .float y ∧ x = y.convert binary32
  | real64, j, x =>
    (∃ w : Whole, j = .whole w ∧ x = .ofInt binary64 w.val) ∨
      ∃ y : Finite binary64, j = .float y ∧ x = .finite y
  | optional _, j, none => j = .null
  | optional type, j, some a => type.Denotes j a
  | list type, j, as => ∃ js, j = .array js ∧ List.Forall₂ type.Denotes js as
  | oneOrMany, j, texts =>
    (∃ s, j = .string s ∧ texts = [s]) ∨ (j = .null ∧ texts = []) ∨
      ∃ js, j = .array js ∧ List.Forall₂ PlainType.string.Denotes js texts

/-- The JSON values that stand for a value of the type. -/
def Accepts : FieldType → Json → Prop
  | plain type, j => type.Accepts j
  | real32, j | real64, j => (∃ w, j = .whole w) ∨ ∃ y, j = .float y
  | optional type, j => j = .null ∨ type.Accepts j
  | list type, j => ∃ js, j = .array js ∧ ∀ item ∈ js, type.Accepts item
  | oneOrMany, j =>
    (∃ s, j = .string s) ∨ j = .null ∨ ∃ js, j = .array js ∧ ∀ item ∈ js, ∃ s, item = .string s

/-- The value of a field, from JSON. -/
def decode : (type : FieldType) → Json → Except Mismatch type.Value
  | plain type => type.decode
  | real32 => Decode.real32
  | real64 => Decode.real64
  | optional type => Decode.nullable type.decode
  | list type => Decode.list type.decode
  | oneOrMany => Decode.oneOrMany

/-- What is written for a value. -/
def encode : (type : FieldType) → type.Value → Json
  | plain type => type.encode
  | real32 => ofSingle
  | real64 => ofDouble
  | optional type => ofOption type.encode
  | list type => fun values => .array (values.map type.encode)
  | oneOrMany => ofStrings

/-- A value that is no infinity. -/
def IsFinite : (type : FieldType) → type.Value → Prop
  | real32, x => ∃ y, x = .finite y
  | real64, x => ∃ y, x = .finite y
  | _, _ => True

instance : (type : FieldType) → (a : type.Value) → Decidable (type.IsFinite a)
  | real32, .finite x | real64, .finite x => .isTrue ⟨x, rfl⟩
  | real32, .infinite _ | real64, .infinite _ => .isFalse (by simp [IsFinite])
  | plain _, _ | optional _, _ | list _, _ | oneOrMany, _ => .isTrue trivial

variable {type : FieldType} {j : Json} {a b : type.Value}

/-- **What decodes as the type of a field** is what stands for one of its values. -/
theorem decode_eq_ok_iff : type.decode j = .ok a ↔ type.Denotes j a := by
  cases type with
  | plain type => exact PlainType.decode_eq_ok_iff
  | real32 => cases j <;> simp [decode, Decode.real32, Decode.wrongType, Denotes, eq_comm]
  | real64 => cases j <;> simp [decode, Decode.real64, Decode.wrongType, Denotes, eq_comm]
  | optional type =>
    rw [decode, PlainType.nullable_decode_eq_ok_iff]
    cases a <;> rfl
  | list type =>
    cases j <;> simp [decode, Decode.list, Decode.wrongType, Denotes,
      PlainType.items_decode_eq_ok_iff]
  | oneOrMany =>
    cases j with
    | array js =>
      have htexts : Decode.items Decode.string js = .ok a ↔
          List.Forall₂ PlainType.string.Denotes js a :=
        @PlainType.items_decode_eq_ok_iff .string js a
      simp only [decode, Decode.oneOrMany, Denotes]
      cases hitems : Decode.items Decode.string js <;> simp [← htexts, hitems]
    | _ => simp [decode, Decode.oneOrMany, Denotes, eq_comm]

/-- **What is accepted** is what stands for something. -/
theorem accepts_iff : type.Accepts j ↔ ∃ a, type.Denotes j a := by
  cases type with
  | plain type => exact PlainType.accepts_iff
  | real32 | real64 => cases j <;> simp [Accepts, Denotes]
  | optional type => simp [Accepts, Denotes, PlainType.accepts_iff, Option.exists]
  | list type => simp [Accepts, Denotes, PlainType.forall_accepts_iff, exists_comm]
  | oneOrMany =>
    have htexts (js : List Json) : (∀ item ∈ js, ∃ s, item = .string s) ↔
        ∃ texts, List.Forall₂ PlainType.string.Denotes js texts :=
      @PlainType.forall_accepts_iff .string js
    cases j <;> simp [Accepts, Denotes, htexts]

instance : Decidable (type.Accepts j) :=
  match h : type.decode j with
  | .ok _ => .isTrue (accepts_iff.mpr ⟨_, decode_eq_ok_iff.mp h⟩)
  | .error _ => .isFalse fun haccepts => by
    obtain ⟨a, ha⟩ := accepts_iff.mp haccepts
    exact nomatch (decode_eq_ok_iff.mpr ha).symm.trans h

/-- A JSON value stands for one value at most. -/
theorem Denotes.unique (ha : type.Denotes j a) (hb : type.Denotes j b) : a = b :=
  Except.ok.inj ((decode_eq_ok_iff.mpr ha).symm.trans (decode_eq_ok_iff.mpr hb))

/-- A number of single precision is written as a number that it is next to. -/
theorem exists_ofSingle_eq (x : Finite binary32) :
    ∃ y, ofSingle (.finite x) = .float y ∧ y.convert binary32 = .finite x := by
  obtain ⟨y, hy, -, -⟩ := x.convert_binary64
  refine ⟨y, ?_, Finite.convert_convert hy⟩
  rw [ofSingle, hy, ofDouble]

/-- **What is written for a value** stands for that value alone, and for none if it is an
infinity. -/
theorem denotes_encode_iff : type.Denotes (type.encode a) b ↔ type.IsFinite a ∧ a = b := by
  cases type with
  | plain type => simp [Denotes, encode, IsFinite, PlainType.denotes_encode_iff]
  | real32 =>
    cases a with
    | finite x =>
      obtain ⟨y, hy, hback⟩ := exists_ofSingle_eq x
      rw [encode, hy]
      simp [Denotes, IsFinite, hback, eq_comm]
    | infinite negative => simp [Denotes, encode, IsFinite, ofSingle]
  | real64 => cases a <;> simp [Denotes, encode, IsFinite, ofDouble, eq_comm]
  | optional type =>
    cases a with
    | none =>
      cases b with
      | none => simp [Denotes, encode, IsFinite, ofOption]
      | some b => simp [Denotes, encode, IsFinite, ofOption, PlainType.denotes_iff,
          (type.encode_ne_null b).symm]
    | some a =>
      cases b with
      | none => simp [Denotes, encode, IsFinite, ofOption, type.encode_ne_null a]
      | some b => simp [Denotes, encode, IsFinite, ofOption, PlainType.denotes_encode_iff]
  | list type =>
    simp only [Denotes, encode, Json.array.injEq, exists_eq_left', IsFinite, true_and,
      PlainType.forall₂_denotes_map_encode_iff]
  | oneOrMany =>
    have htexts : List.Forall₂ PlainType.string.Denotes (a.map .string) b ↔ a = b :=
      PlainType.forall₂_denotes_map_encode_iff
    simp only [Denotes, encode, ofStrings, reduceCtorEq, false_and, exists_false, false_or,
      Json.array.injEq, exists_eq_left', htexts, IsFinite, true_and]

end FieldType

end CompletionService
