import CompletionService.Json.Shape
import CompletionService.Proofs.JsonText
import CompletionService.Proofs.Members
import Mathlib.Data.List.Forall2

/-!
# Shapes read what is written

`Shape.Reads` says of a shape and a value that the compact text of the value is read as that value,
by enough steps and where enough containers may be opened. There is one lemma for each way to build
a shape: a map reads an object whose keys ascend (`Reads.map`), a record one that has its fields in
their order (`Reads.record`). At the top, a value that a shape reads is decoded from its text like
from itself (`readAs_text`).
-/

namespace CompletionService.Json

variable {rest : List Char}

theorem writeEach_eq_map (items : List Json) : writeEach items = items.map write := by
  induction items with
  | nil => rfl
  | cons j items ih => rw [writeEach, ih, List.map_cons]

theorem writeValues_eq_map (members : List (String × Json)) :
    writeValues members = members.map fun m => (m.1, m.2.write) := by
  induction members with
  | nil => rfl
  | cons m members ih => rw [writeValues, ih, List.map_cons]

/-- The text of an object, member by member. -/
theorem write_object (members : List (String × Json)) : (Json.object members).write =
    '{' :: (commaSeparated ((writeValues members).map writeMember) ++ ['}']) := by
  rw [write]
  rfl

/-- The same where more follows: the closing brace belongs to what follows the members. -/
theorem write_object_append (members : List (String × Json)) (rest : List Char) :
    (Json.object members).write ++ rest =
      '{' :: (commaSeparated ((writeValues members).map writeMember) ++ '}' :: rest) := by
  rw [write_object, List.cons_append, List.append_assoc, List.singleton_append]

/-- No value of a member is as long as the object. -/
theorem length_write_lt {members : List (String × Json)} {m : String × Json} (h : m ∈ members) :
    m.2.write.length < (Json.object members).write.length := by
  have hmem : (m.1, m.2.write) ∈ writeValues members := by
    rw [writeValues_eq_map]
    exact List.mem_map_of_mem h
  have hle := length_le_commaSeparated (List.mem_map_of_mem (f := writeMember) hmem)
  have hlt : m.2.write.length < (writeMember (m.1, m.2.write)).length :=
    length_lt_writeMember (m.1, m.2.write)
  rw [write_object, List.length_cons, List.length_append]
  omega

/-- The members of an object are read where its text has been opened. -/
theorem Collects.readMembersFrom_object {σ : Type}
    {member : String → σ → List Char → Except Fault (σ × List Char)} {collected last : σ}
    {members : List (String × Json)} {steps : Nat}
    (h : Collects member collected (writeValues members) last)
    (hsteps : (Json.object members).write.length < steps) (rest : List Char) :
    readMembersFrom member steps true collected
        (commaSeparated ((writeValues members).map writeMember) ++ '}' :: rest) =
      .ok (last, '}' :: rest) := by
  refine h.readMembersFrom_commaSeparated ?_
  rw [write_object, List.length_cons, List.length_append] at hsteps
  omega

namespace Shape

/-- The text of a value is read as that value, where so many containers may be opened. -/
structure Reads (shape : Shape) (depth : Nat) (j : Json) : Prop where
  /-- so that it can be an item of an array -/
  opens : Opens j.write
  read : ∀ {steps d : Nat} {rest : List Char}, j.write.length < steps → depth ≤ d → Stops rest →
    shape steps d (j.write ++ rest) = .ok (j, rest)

/-! ## Values without parts, and arrays -/

/-- More containers may be opened. -/
theorem Reads.mono {shape : Shape} {depth depth' : Nat} {j : Json} (h : Reads shape depth j)
    (hle : depth ≤ depth') : Reads shape depth' j where
  opens := h.opens
  read hsteps hdepth := h.read hsteps (Nat.le_trans hle hdepth)

section

variable {α : Type} {check : Json → Except Mismatch α} {a : α} {shape : Shape} {depth : Nat}
  {j : Json}

/-- A value without parts is read as any value. -/
theorem scalar_of_readValue {steps d : Nat} {c : Char} {cs : List Char} (hblank : isBlank c = false)
    (hbracket : c ≠ '[') (hbrace : c ≠ '{') (hread : readValue steps 0 (c :: cs) = .ok (j, rest))
    (h : check j = .ok a) : Shape.scalar check steps d (c :: cs) = .ok (j, rest) := by
  rw [Shape.scalar, skipBlank_cons hblank]
  split
  · exact absurd (List.cons.inj ‹_›).1 hbracket
  · exact absurd (List.cons.inj ‹_›).1 hbrace
  · simp only [hread, h, bind, Except.bind]

/-- A text of the wanted type. -/
theorem reads_string {s : String} (h : check (.string s) = .ok a) :
    Reads (.scalar check) 0 (.string s) where
  opens := ⟨rfl, by decide⟩
  read hsteps _ _ := scalar_of_readValue (by decide) (by decide) (by decide)
    (readValue_string 0 s (Nat.le_succ_of_le (Nat.le_of_lt hsteps))) h

/-- A whole number of the wanted type. -/
theorem reads_whole {n : Whole} (h : check (.whole n) = .ok a) :
    Reads (.scalar check) 0 (.whole n) := by
  obtain ⟨c, cs, hcons, hhead⟩ := exists_writeInt_eq_cons n.val
  have hblank : isBlank c = false := by
    rcases hhead with rfl | hdigit
    · decide
    · exact isBlank_of_isDigit hdigit
  have hother {d : Char} (hminus : '-' ≠ d) (hd : d.isDigit = false) : c ≠ d := by
    rcases hhead with rfl | hdigit
    · exact hminus
    · exact ne_of_isDigit hdigit hd
  refine ⟨?_, fun {steps d rest} _ _ hstops => ?_⟩
  · rw [write, hcons]
    exact ⟨hblank, hother (by decide) (by decide)⟩
  · have hread : readValue steps 0 (writeInt n.val ++ rest) = .ok (.whole n, rest) :=
      readValue_whole 0 n hstops
    rw [hcons] at hread
    rw [write, hcons]
    exact scalar_of_readValue hblank (hother (by decide) (by decide))
      (hother (by decide) (by decide)) hread h

/-- `null`, where there may be none. -/
theorem reads_null (shape : Shape) : Reads (.nullable shape) 0 .null where
  opens := ⟨rfl, by decide⟩
  read _ _ _ := rfl

/-- Another value, where there may be none. Only `null` begins with its letter. -/
theorem Reads.nullable (h : Reads shape depth j) (hne : j.write.head? ≠ some 'n') :
    Reads (.nullable shape) depth j where
  opens := h.opens
  read {steps d rest} hsteps hdepth hstops := by
    have hread := h.read hsteps hdepth hstops
    obtain ⟨c, cs, hcons, hblank, -⟩ := h.opens.exists_eq_cons
    rw [hcons, List.cons_append] at hread ⊢
    rw [Shape.nullable, skipBlank_cons hblank]
    split
    · rename_i hn
      obtain ⟨rfl, -⟩ := List.cons.inj hn
      exact absurd (congrArg List.head? hcons) hne
    · exact hread

/-- What may be absent, if the shape reads all that can be there. -/
theorem Reads.ofOption {β : Type} {toJson : β → Json} (h : ∀ b, Reads shape depth (toJson b))
    (hne : ∀ b, (toJson b).write.head? ≠ some 'n') (value? : Option β) :
    Reads (.nullable shape) depth (.ofOption toJson value?) := by
  cases value? with
  | none => exact (reads_null shape).mono (Nat.zero_le depth)
  | some b => exact (h b).nullable (hne b)

/-- An array, if the shape of its items reads each of them. -/
theorem Reads.list {items : List Json} (h : ∀ j ∈ items, Reads shape depth j) :
    Reads (.list shape) (depth + 1) (.array items) where
  opens := ⟨rfl, by decide⟩
  read {steps d rest} hsteps hdepth _ := by
    obtain ⟨d, rfl⟩ := Nat.exists_eq_succ_of_ne_zero (Nat.ne_of_gt (Nat.zero_lt_of_lt hdepth))
    rw [write, writeEach_eq_map, writeItems, List.length_cons, List.length_append] at hsteps
    have hitem (j : Json) (hj : j ∈ items) {rest : List Char} (hstops : Stops rest) :
        shape steps d (j.write ++ rest) = .ok (j, rest) := by
      have hle := length_le_commaSeparated (List.mem_map_of_mem (f := write) hj)
      exact (h j hj).read (by omega) (Nat.le_of_succ_le_succ hdepth) hstops
    have hread : readItemsFrom (shape steps d) steps []
        (commaSeparated (items.map write) ++ ']' :: rest) = .ok (items, ']' :: rest) :=
      readItemsFrom_commaSeparated (fun j hj => (h j hj).opens) hitem (by omega)
    rw [write, writeEach_eq_map, writeItems, List.cons_append, List.append_assoc,
      List.singleton_append]
    simp only [Shape.list, skipBlank_cons (show isBlank '[' = false by decide), hread, bind,
      Except.bind, List.drop_one, List.tail_cons]

end

/-! ## Maps -/

section

variable {shape : Shape} {members : List (String × Json)} {depth : Nat}

/-- **Members** of values that a shape reads are collected in their order, the last one first. -/
theorem collects_collectMember {steps d : Nat} (h : ∀ m ∈ members, Reads shape depth m.2)
    (hsteps : ∀ m ∈ members, m.2.write.length < steps) (hdepth : depth ≤ d)
    (collected : List (String × Json)) :
    Collects (collectMember (shape steps d)) collected (writeValues members)
      (members.reverse ++ collected) := by
  induction members generalizing collected with
  | nil => exact .nil _
  | cons m members ih =>
    obtain ⟨key, j⟩ := m
    rw [List.forall_mem_cons] at h hsteps
    rw [List.reverse_cons, List.append_assoc, List.singleton_append]
    refine .cons (fun {rest} hstops => ?_) (ih h.2 hsteps.2 ((key, j) :: collected))
    have hcolon : readColon (':' :: (j.write ++ rest)) = .ok (j.write ++ rest) := rfl
    simp only [collectMember, hcolon, h.1.read hsteps.1 hdepth hstops, bind, Except.bind]

/-- **Maps** read objects whose keys ascend, if the shape of their values reads each of them. -/
theorem Reads.map (hkeys : members.Pairwise (·.1 < ·.1))
    (h : ∀ m ∈ members, Reads shape depth m.2) :
    Reads (.map shape) (depth + 1) (.object members) where
  opens := ⟨rfl, by decide⟩
  read {steps d rest} hsteps hdepth _ := by
    obtain ⟨d, rfl⟩ := Nat.exists_eq_succ_of_ne_zero (Nat.ne_of_gt (Nat.zero_lt_of_lt hdepth))
    have hvalue (m : String × Json) (hm : m ∈ members) : m.2.write.length < steps :=
      Nat.lt_trans (length_write_lt hm) hsteps
    have hcollects : Collects (collectMember (shape steps d)) [] (writeValues members)
        (members.reverse ++ []) :=
      collects_collectMember h hvalue (Nat.le_of_succ_le_succ hdepth) []
    have hread := hcollects.readMembersFrom_object hsteps rest
    have hordered : Members.ofList (members.reverse ++ []).reverse = members := by
      rw [List.append_nil, List.reverse_reverse]
      exact Members.ofList_eq_self hkeys
    rw [write_object_append]
    simp only [Shape.map, skipBlank_cons (show isBlank '{' = false by decide), hread, hordered,
      bind, Except.bind, List.drop_one, List.tail_cons]

end

/-! ## Records -/

/-- The field takes the member. -/
structure Field.Takes (depth : Nat) (field : Field) (m : String × Json) : Prop where
  name : m.1 = field.name
  reads : Reads field.shape depth m.2
  accept : field.accept m.2 = .ok ()

section

variable {fields : List Field} {members : List (String × Json)} {depth : Nat}

/-- The members have the names of the fields. -/
theorem map_fst_eq_of_takes (h : List.Forall₂ (Field.Takes depth) fields members) :
    members.map (·.1) = fields.map (·.name) := by
  induction h with
  | nil => rfl
  | cons hfirst _ ih => rw [List.map_cons, List.map_cons, hfirst.name, ih]

/-- A field is found by its name. -/
theorem find?_name {field : Field} (hnames : (fields.map (·.name)).Nodup) (h : field ∈ fields) :
    fields.find? (·.name == field.name) = some field := by
  induction fields with
  | nil => exact nomatch h
  | cons first fields ih =>
    obtain ⟨hfirst, hothers⟩ := List.nodup_cons.mp hnames
    rcases List.mem_cons.mp h with rfl | hmem
    · exact List.find?_cons_of_pos (beq_self_eq_true _)
    · have hne : first.name ≠ field.name := by
        intro heq
        have hname : field.name ∈ fields.map (·.name) := List.mem_map_of_mem hmem
        exact hfirst (show first.name ∈ _ by rwa [heq])
      rw [List.find?_cons_of_neg (by simpa using hne), ih hothers hmem]

/-- **Members**: each is new and is taken by its field, so they are collected in their order, the
last one first. -/
theorem collects_recordMember {steps d : Nat} (hnames : (fields.map (·.name)).Nodup)
    {todo : List Field} (hsub : ∀ field ∈ todo, field ∈ fields) (htodo : (todo.map (·.name)).Nodup)
    (h : List.Forall₂ (Field.Takes depth) todo members)
    (hsteps : ∀ m ∈ members, m.2.write.length < steps) (hdepth : depth ≤ d)
    {collected : List (String × Json)}
    (hnew : ∀ field ∈ todo, collected.lookup field.name = none) :
    Collects (recordMember fields steps d) collected (writeValues members)
      (members.reverse ++ collected) := by
  induction h generalizing collected with
  | nil => exact .nil _
  | @cons field m todo members hfirst hothers ih =>
    obtain ⟨key, j⟩ := m
    obtain rfl : key = field.name := hfirst.name
    rw [List.forall_mem_cons] at hsub hsteps hnew
    obtain ⟨hdistinct, htodo⟩ := List.nodup_cons.mp htodo
    rw [List.reverse_cons, List.append_assoc, List.singleton_append]
    refine .cons (fun {rest} hstops => ?_) (ih hsub.2 htodo hsteps.2 fun other hmem => ?_)
    · have hcolon : readColon (':' :: (j.write ++ rest)) = .ok (j.write ++ rest) := rfl
      simp only [recordMember, find?_name hnames hsub.1, hnew.1, hcolon,
        hfirst.reads.read hsteps.1 hdepth hstops, hfirst.accept, bind, Except.bind,
        Option.isSome_none, Bool.false_eq_true, if_false]
    · have hname : other.name ∈ todo.map (·.name) := List.mem_map_of_mem hmem
      have hne : other.name ≠ field.name := by
        intro heq
        exact hdistinct (show field.name ∈ _ by rwa [← heq])
      rw [List.lookup_cons, beq_false_of_ne hne]
      exact hnew.2 other hmem

/-- When there is a member for every field, nothing has to be completed. -/
theorem complete_of_lookup {collected : List (String × Json)}
    (hnames : members.map (·.1) = fields.map (·.name))
    (h : ∀ m ∈ members, collected.lookup m.1 = some m.2) :
    complete fields collected = .ok members := by
  induction members generalizing fields with
  | nil =>
    rw [List.map_nil, eq_comm, List.map_eq_nil_iff] at hnames
    rw [hnames]
    rfl
  | cons m members ih =>
    rw [List.forall_mem_cons] at h
    rw [List.map_cons, eq_comm, List.map_eq_cons_iff] at hnames
    obtain ⟨field, others, rfl, hname, hothers⟩ := hnames
    have hlater := ih hothers.symm h.2
    rw [complete] at hlater ⊢
    rw [List.mapM_cons, hname, h.1, hlater]
    rfl

/-- **Records** read objects that have their fields, in their order. -/
theorem Reads.record (name : String) (hnames : (fields.map (·.name)).Nodup)
    (h : List.Forall₂ (Field.Takes depth) fields members) :
    Reads (.record name fields) (depth + 1) (.object members) where
  opens := ⟨rfl, by decide⟩
  read {steps d rest} hsteps hdepth _ := by
    obtain ⟨d, rfl⟩ := Nat.exists_eq_succ_of_ne_zero (Nat.ne_of_gt (Nat.zero_lt_of_lt hdepth))
    have hkeys := map_fst_eq_of_takes h
    have hvalue (m : String × Json) (hm : m ∈ members) : m.2.write.length < steps :=
      Nat.lt_trans (length_write_lt hm) hsteps
    have hcollects : Collects (recordMember fields steps d) [] (writeValues members)
        (members.reverse ++ []) :=
      collects_recordMember hnames (fun _ hmem => hmem) hnames h hvalue
        (Nat.le_of_succ_le_succ hdepth) fun _ _ => rfl
    have hread := hcollects.readMembersFrom_object hsteps rest
    have hcomplete : complete fields (members.reverse ++ []) = .ok members := by
      rw [List.append_nil]
      refine complete_of_lookup hkeys fun m hm => Members.get?_of_mem ?_ (List.mem_reverse.mpr hm)
      rw [List.map_reverse, List.nodup_reverse, hkeys]
      exact hnames
    rw [write_object_append]
    simp only [Shape.record, skipBlank_cons (show isBlank '{' = false by decide), recordFromObject,
      hread, hcomplete, bind, Except.bind, List.drop_one, List.tail_cons]

end

end Shape

/-! ## Whole texts -/

section

variable {shape : Shape} {depth : Nat} {j : Json} (h : shape.Reads depth j)
  (hdepth : depth ≤ depthLimit)
include h hdepth

/-- A value is read from its text. -/
theorem parseAs_text : parseAs shape j.text = .ok j := by
  have hread : shape (stepsFor j.write) depthLimit (j.write ++ []) = .ok (j, []) :=
    h.read (Nat.lt_succ_self _) hdepth trivial
  rw [List.append_nil] at hread
  rw [parseAs, text, String.toList_ofList]
  simp only [hread]
  rfl

/-- **A text is decoded like the value** that it was written from. -/
theorem readAs_text {α : Type} {decode : Json → Except Mismatch α} {a : α}
    (hdecode : decode j = .ok a) : readAs shape decode j.text = .ok a := by
  rw [readAs, parseAs_text h hdepth]
  simp only [bind, Except.bind, hdecode]

end

end CompletionService.Json
