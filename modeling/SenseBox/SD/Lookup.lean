import SenseBox.SD.SDClass
import Mathlib.Data.List.Basic

namespace SenseBox.SD

/-! Finding an entry again after the directory has been changed. -/

def unused (name : Name) : Prop :=
  firstByte name = nameFree ∨ firstByte name = nameDeleted

theorem search_cons (io : Io) (dname : Name) (slot : DirEntry)
    (rest : List DirEntry) (first : Nat) (empty : Option Nat) :
    search io dname (slot :: rest) first empty =
      if !io (.readDir first) then .failed
      else if firstByte slot.name = nameFree then .absent (empty <|> some first)
      else if firstByte slot.name = nameDeleted then
        search io dname rest (first + 1) (empty <|> some first)
      else if dname = slot.name then .found first
      else search io dname rest (first + 1) empty := rfl

/-- A search that finds a slot either stops at the first one, and would do so
whatever follows, or passes it by, and would do so too. -/
theorem search_cons_cases {io : Io} {dname : Name} {slot : DirEntry}
    {rest : List DirEntry} {first index : Nat} {empty : Option Nat}
    (hfound : search io dname (slot :: rest) first empty = .found index) :
    (index = first ∧ slot.name = dname ∧
      ∀ other tail, other.name = dname →
        search io dname (other :: tail) first empty = .found first) ∨
    ∃ seen, search io dname rest (first + 1) seen = .found index ∧
      ∀ tail, search io dname (slot :: tail) first empty =
        search io dname tail (first + 1) seen := by
  rw [search_cons] at hfound
  split at hfound
  · cases hfound
  · rename_i hread
    split at hfound
    · cases hfound
    · rename_i hfree
      split at hfound
      · rename_i hdeleted
        refine .inr ⟨_, hfound, fun tail => ?_⟩
        rw [search_cons, if_neg hread, if_neg hfree, if_pos hdeleted]
      · rename_i hdeleted
        split at hfound
        · rename_i hsame
          cases hfound
          refine .inl ⟨rfl, hsame.symm, fun other tail hother => ?_⟩
          rw [hsame] at hother ⊢
          rw [search_cons, if_neg hread, hother, if_neg hfree, if_neg hdeleted,
            if_pos rfl]
        · rename_i hother
          refine .inr ⟨_, hfound, fun tail => ?_⟩
          rw [search_cons, if_neg hread, if_neg hfree, if_neg hdeleted,
            if_neg hother]

/-- A found slot carries the name, and the same slot is found once its entry
is replaced by another of that name. -/
theorem search_found {io : Io} {dname : Name} {slots : List DirEntry}
    {first : Nat} {empty : Option Nat} {index : Nat}
    (hfound : search io dname slots first empty = .found index) :
    first ≤ index ∧ ∃ entry, slots[index - first]? = some entry ∧
      entry.name = dname ∧
      ∀ other : DirEntry, other.name = dname →
        search io dname (slots.set (index - first) other) first empty =
          .found index := by
  induction slots generalizing first empty with
  | nil => simp [search] at hfound
  | cons slot rest ih =>
      rcases search_cons_cases hfound with
        ⟨rfl, hname, hstops⟩ | ⟨seen, hlater, hpasses⟩
      · refine ⟨Nat.le_refl _, slot, by simp, hname, ?_⟩
        intro other hother
        rw [Nat.sub_self, List.set_cons_zero]
        exact hstops other rest hother
      · obtain ⟨hle, entry, hentry, hname, hset⟩ := ih hlater
        have hindex : index - first = index - (first + 1) + 1 := by omega
        refine ⟨by omega, entry, ?_, hname, ?_⟩
        · rw [hindex, List.getElem?_cons_succ]
          exact hentry
        · intro other hother
          rw [hindex, List.set_cons_succ, hpasses]
          exact hset other hother

theorem search_absent_some {io : Io} {dname : Name} {slots : List DirEntry}
    {first index : Nat} {empty : Option Nat}
    (habsent : search io dname slots first (some index) = .absent empty) :
    empty = some index := by
  induction slots generalizing first with
  | nil => simpa [search, eq_comm] using habsent
  | cons slot rest ih =>
      rw [search_cons] at habsent
      split at habsent
      · cases habsent
      · split at habsent
        · simpa [eq_comm] using habsent
        · split at habsent
          · exact ih (by simpa using habsent)
          · split at habsent
            · cases habsent
            · exact ih habsent

theorem search_ok_cons (dname : Name) (slot : DirEntry)
    (rest : List DirEntry) (first : Nat) (empty : Option Nat) :
    search .ok dname (slot :: rest) first empty =
      if firstByte slot.name = nameFree then .absent (empty <|> some first)
      else if firstByte slot.name = nameDeleted then
        search .ok dname rest (first + 1) (empty <|> some first)
      else if dname = slot.name then .found first
      else search .ok dname rest (first + 1) empty := by
  rw [search_cons, Io.ok_apply, if_neg (by decide)]

theorem search_here {dname : Name} (hused : ¬ unused dname)
    {entry : DirEntry} (hname : entry.name = dname)
    (rest : List DirEntry) (first : Nat) (empty : Option Nat) :
    search .ok dname (entry :: rest) first empty = .found first := by
  have hfree : ¬ firstByte dname = nameFree := fun h => hused (.inl h)
  have hdeleted : ¬ firstByte dname = nameDeleted := fun h => hused (.inr h)
  simp [search_ok_cons, hname, hfree, hdeleted]

/-- A search that finds nothing either remembers the first slot or passes it
by, and would do so whatever follows. -/
theorem absent_cons_cases {dname : Name} {slot : DirEntry}
    {rest : List DirEntry} {first : Nat} {empty : Option Nat}
    (habsent : search .ok dname (slot :: rest) first none = .absent empty) :
    empty = some first ∨
      ¬ unused slot.name ∧ search .ok dname rest (first + 1) none = .absent empty ∧
        ∀ tail, search .ok dname (slot :: tail) first none =
          search .ok dname tail (first + 1) none := by
  rw [search_ok_cons] at habsent
  split at habsent
  · left
    simpa [eq_comm] using habsent
  · rename_i hfree
    split at habsent
    · exact .inl (search_absent_some habsent)
    · rename_i hdeleted
      split at habsent
      · cases habsent
      · rename_i hother
        refine .inr ⟨fun hunused => hunused.elim hfree hdeleted, habsent, ?_⟩
        intro tail
        rw [search_ok_cons, if_neg hfree, if_neg hdeleted, if_neg hother]

theorem search_created {dname : Name} (hused : ¬ unused dname)
    {created : DirEntry} (hcreated : created.name = dname)
    {slots : List DirEntry} {first index : Nat}
    (habsent : search .ok dname slots first none = .absent (some index)) :
    first ≤ index ∧ index - first < slots.length ∧
      search .ok dname (slots.set (index - first) created) first none =
        .found index := by
  induction slots generalizing first with
  | nil => simp [search] at habsent
  | cons slot rest ih =>
      rcases absent_cons_cases habsent with hhere | ⟨-, hlater, hpasses⟩
      · cases hhere
        simpa using search_here hused hcreated rest index none
      · obtain ⟨hle, hlt, hsearch⟩ := ih hlater
        have hindex : index - first = index - (first + 1) + 1 := by omega
        refine ⟨by omega, by simp only [List.length_cons]; omega, ?_⟩
        rw [hindex, List.set_cons_succ, hpasses]
        exact hsearch

theorem search_append {dname : Name} {slots : List DirEntry} {first : Nat}
    (rest : List DirEntry)
    (habsent : search .ok dname slots first none = .absent none) :
    search .ok dname (slots ++ rest) first none =
      search .ok dname rest (first + slots.length) none := by
  induction slots generalizing first with
  | nil => rfl
  | cons slot tail ih =>
      rcases absent_cons_cases habsent with hhere | ⟨-, hlater, hpasses⟩
      · cases hhere
      · rw [List.cons_append, hpasses, ih hlater, List.length_cons,
          Nat.add_right_comm, Nat.add_assoc]

theorem search_appended {dname : Name} (hused : ¬ unused dname)
    {created : DirEntry} (hcreated : created.name = dname)
    {slots : List DirEntry} {first : Nat} (rest : List DirEntry)
    (habsent : search .ok dname slots first none = .absent none) :
    search .ok dname (slots ++ created :: rest) first none =
      .found (first + slots.length) := by
  rw [search_append _ habsent]
  exact search_here hused hcreated rest _ none

/-! Searches some of whose accesses fail, and searches that find nothing. -/

/-- A search that does not fail gives what it gives when no access fails. -/
theorem search_failed_or_ok (io : Io) (dname : Name) (slots : List DirEntry)
    (first : Nat) (empty : Option Nat) :
    search io dname slots first empty = .failed ∨
      search io dname slots first empty = search .ok dname slots first empty := by
  induction slots generalizing first empty with
  | nil => exact .inr rfl
  | cons slot rest ih =>
      rw [search_ok_cons, search_cons]
      cases io (.readDir first) with
      | false => exact .inl rfl
      | true =>
          rw [if_neg (by decide)]
          split
          · exact .inr rfl
          · split
            · exact ih _ _
            · split
              · exact .inr rfl
              · exact ih _ _

theorem search_ok_cases (dname : Name) (slots : List DirEntry) :
    (∃ index, search .ok dname slots 0 none = .found index) ∨
      ∃ empty, search .ok dname slots 0 none = .absent empty := by
  have hnever (first : Nat) (empty : Option Nat) :
      search .ok dname slots first empty ≠ .failed := by
    induction slots generalizing first empty with
    | nil => simp [search]
    | cons slot rest ih =>
        rw [search_ok_cons]
        split
        · simp
        · split
          · exact ih _ _
          · split
            · simp
            · exact ih _ _
  cases hsearch : search .ok dname slots 0 none with
  | failed => exact absurd hsearch (hnever 0 none)
  | found index => exact .inl ⟨index, rfl⟩
  | absent empty => exact .inr ⟨empty, rfl⟩

/-- Only a directory without an unused slot offers none. -/
theorem not_unused_of_absent_none {dname : Name} {slots : List DirEntry}
    {first : Nat} (habsent : search .ok dname slots first none = .absent none)
    {slot : DirEntry} (hslot : slot ∈ slots) : ¬ unused slot.name := by
  induction slots generalizing first with
  | nil => cases hslot
  | cons head rest ih =>
      rcases absent_cons_cases habsent with hhere | ⟨hused, hlater, -⟩
      · cases hhere
      · cases hslot with
        | head => exact hused
        | tail _ hrest => exact ih hlater hrest

end SenseBox.SD
