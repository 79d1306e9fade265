import Harmonograph.Reading.Sheet

/-!
The numbers of the generators of a group: they are added one by one while a file is read, they
follow each other, and they lead back to the generators.
-/

namespace Harmonograph

/-- Consecutive places of a list hold a consecutive part of it. -/
theorem filterMap_range' {α : Type} (before as after : List α) :
    (List.range' before.length as.length).filterMap (fun i ↦ (before ++ as ++ after)[i]?) = as := by
  induction as generalizing before with
  | nil => rfl
  | cons a as ih =>
    have h := ih (before ++ [a])
    rw [List.length_append, List.length_singleton] at h
    rw [List.length_cons, List.range'_succ, List.filterMap_cons]
    have ha : (before ++ a :: as ++ after)[before.length]? = some a := by simp
    rw [ha]
    simp only [List.append_assoc, List.cons_append, List.nil_append] at h ⊢
    rw [h]

namespace Group

theorem foldl_addMember (ids : List Nat) (g : Group) :
    ids.foldl addMember g = { g with members := g.members ++ ids } := by
  induction ids generalizing g with
  | nil => simp
  | cons id ids ih =>
    rw [List.foldl_cons, ih]
    simp [addMember]

theorem members_assign (g : Group) (f : GroupField) : (g.assign f).members = g.members := by
  cases f <;> rfl

theorem addMember_assign (g : Group) (f : GroupField) (id : Nat) :
    (g.addMember id).assign f = (g.assign f).addMember id := by
  cases f <;> rfl

theorem members_foldl_assign (fs : List GroupField) (g : Group) :
    (fs.foldl assign g).members = g.members := by
  induction fs generalizing g with
  | nil => rfl
  | cons f fs ih => rw [List.foldl_cons, ih, members_assign]

/-- The order in which fields are assigned and members are added makes no difference. -/
theorem foldl_assign_addMember (fs : List GroupField) (g : Group) (id : Nat) :
    fs.foldl assign (g.addMember id) = (fs.foldl assign g).addMember id := by
  induction fs generalizing g with
  | nil => rfl
  | cons f fs ih => rw [List.foldl_cons, addMember_assign, ih, List.foldl_cons]

end Group

namespace Drawing

/-- A group with consecutive numbers has as its members the figures in these places. -/
theorem members_eq {d : Drawing} {g : Group} (before fs after : List Figure)
    (hd : d.figures = before ++ fs ++ after)
    (hg : g.members = List.range' before.length fs.length) :
    d.members g = fs := by
  have h := filterMap_range' before fs after
  rwa [← hd, ← hg] at h

end Drawing

end Harmonograph
