import Harmonograph.Proofs.Reading.Steps
import Harmonograph.Reading.Run
import Mathlib.Data.List.Induction

/-!
A drawing is made of definitions, figures with their extents, one after the other. The index holds
the last definition of each name, and a definition that takes the place of another is said to do so.
-/

namespace Harmonograph

namespace NameIndex

/-- The index after more names have been defined, one after the other. -/
def record (index : NameIndex) (ds : List (String × Extent)) : NameIndex :=
  ds.foldl (fun index d ↦ index.insert d.1 d.2) index

theorem record_append (index : NameIndex) (ds es : List (String × Extent)) :
    index.record (ds ++ es) = (index.record ds).record es := List.foldl_append

theorem getElem?_record (index : NameIndex) (ds : List (String × Extent)) (name : String) :
    (index.record ds)[name]? = ((ds.findRev? (·.1 == name)).map (·.2)).or index[name]? := by
  induction ds using List.reverseRecOn with
  | nil => rfl
  | append_singleton ds d ih =>
    have hstep : index.record (ds ++ [d]) = (index.record ds).insert d.1 d.2 := by
      rw [record_append]
      rfl
    rw [hstep, Std.TreeMap.getElem?_insert, ih, List.findRev?_eq_find?_reverse,
      List.findRev?_eq_find?_reverse, List.reverse_append, List.reverse_singleton,
      List.singleton_append, List.find?_cons]
    by_cases h : d.1 = name
    · simp [h]
    · have hne : (d.1 == name) = false := by simpa using h
      simp [h, hne]

theorem size_record_cons (index : NameIndex) (d : String × Extent) :
    (index.insert d.1 d.2).size + (if index[d.1]?.isSome then 1 else 0) = index.size + 1 := by
  rw [Std.TreeMap.size_insert, Std.TreeMap.contains_eq_isSome_getElem?]
  by_cases h : index[d.1]?.isSome
  · simp [h]
  · simp [h]

end NameIndex

/-- The name of a figure with the extent of the figure. -/
def Figure.named (d : Figure × Extent) : String × Extent := (d.1.name, d.2)

namespace Drawing

/-- The drawing with more figures, one after the other. -/
def defineAll (d : Drawing) (ds : List (Figure × Extent)) : Drawing :=
  ds.foldl (fun d x ↦ d.define x.1 x.2) d

variable (d : Drawing) (ds es : List (Figure × Extent))

theorem defineAll_append : d.defineAll (ds ++ es) = (d.defineAll ds).defineAll es :=
  List.foldl_append

theorem figures_defineAll : (d.defineAll ds).figures = d.figures ++ ds.map (·.1) := by
  induction ds generalizing d with
  | nil => exact (List.append_nil _).symm
  | cons x ds ih =>
    have hstep : d.defineAll (x :: ds) = (d.define x.1 x.2).defineAll ds := rfl
    rw [hstep, ih, define, List.append_assoc]
    rfl

theorem index_defineAll : (d.defineAll ds).index = d.index.record (ds.map Figure.named) := by
  induction ds generalizing d with
  | nil => rfl
  | cons x ds ih => exact ih (d.define x.1 x.2)

variable {ds} (name : String)

/-- The last definition of a name gives both the figure of this name and its extent. -/
theorem find?_defineAll_empty :
    (empty.defineAll ds).find? name = (ds.findRev? (·.1.name == name)).map (·.1) ∧
    (empty.defineAll ds).index[name]? = (ds.findRev? (·.1.name == name)).map (·.2) := by
  constructor
  · rw [find?, figures_defineAll, List.findRev?_eq_find?_reverse, List.findRev?_eq_find?_reverse]
    simp only [empty, List.nil_append, ← List.map_reverse, List.find?_map]
    rfl
  · rw [index_defineAll, NameIndex.getElem?_record, List.findRev?_eq_find?_reverse,
      List.findRev?_eq_find?_reverse, ← List.map_reverse, List.find?_map, Option.map_map]
    simp only [empty, Std.TreeMap.getElem?_emptyc, Option.or_none]
    rfl

end Drawing

namespace Notice

def isRelocated : Notice → Bool
  | relocated _ _ => true
  | _ => false

def isUnreadable : Notice → Bool
  | unreadable _ _ => true
  | _ => false

theorem not_of_isOfFile {n : Notice} (h : n.isOfFile = true) :
    n.isRelocated = false ∧ n.isUnreadable = false := by
  cases n <;> first | exact ⟨rfl, rfl⟩ | cases h

end Notice

section Relocations

variable {ns : List Notice} (index : NameIndex)

/-- The notices of a file are kept, whatever names are known already. -/
theorem filterMap_withRelocations :
    (withRelocations index ns).filterMap Notice.definition? = ns.filterMap Notice.definition? := by
  fun_induction withRelocations index ns with
  | case1 => rfl
  | case2 index name extent ns before ih =>
    have hbefore : before.filterMap Notice.definition? = [] := by
      simp only [before]
      split
      · rfl
      · rfl
    rw [List.cons_append, List.filterMap_cons, List.filterMap_append, hbefore, List.nil_append, ih]
    rfl
  | case3 index n ns hn ih => rw [List.filterMap_cons, List.filterMap_cons, ih]

/-- A name that is defined again makes a notice of its own and no new entry in the index. -/
theorem countP_isRelocated_withRelocations (h : ∀ n ∈ ns, n.isOfFile = true) :
    (withRelocations index ns).countP Notice.isRelocated +
      (index.record (ns.filterMap Notice.definition?)).size =
        index.size + (ns.filterMap Notice.definition?).length := by
  fun_induction withRelocations index ns with
  | case1 => simp [NameIndex.record]
  | case2 index name extent ns before ih =>
    have hbefore : before.countP Notice.isRelocated = if index[name]?.isSome then 1 else 0 := by
      simp only [before]
      split
      case h_1 e he => simp [he, Notice.isRelocated]
      case h_2 he => simp [he]
    have hsize := index.size_record_cons (name, extent)
    have hrest := ih fun n hn ↦ h n (List.mem_cons_of_mem _ hn)
    have hrecord : index.record ((Notice.located name extent :: ns).filterMap Notice.definition?) =
        NameIndex.record (index.insert name extent) (ns.filterMap Notice.definition?) := rfl
    have hlength : ((Notice.located name extent :: ns).filterMap Notice.definition?).length =
        (ns.filterMap Notice.definition?).length + 1 := rfl
    rw [hrecord, hlength, List.cons_append, List.countP_cons_of_neg (by simp [Notice.isRelocated]),
      List.countP_append, hbefore]
    dsimp only at hsize
    omega
  | case3 index n ns hn ih =>
    have hnone : n.definition? = none := by
      cases n <;> first | rfl | exact absurd rfl (hn _ _)
    have hself := (Notice.not_of_isOfFile (h n List.mem_cons_self)).1
    rw [List.filterMap_cons_none hnone, List.countP_cons_of_neg (by simp [hself])]
    exact ih fun n hn ↦ h n (List.mem_cons_of_mem _ hn)

theorem countP_isUnreadable_withRelocations (h : ∀ n ∈ ns, n.isOfFile = true) :
    (withRelocations index ns).countP Notice.isUnreadable = 0 := by
  fun_induction withRelocations index ns with
  | case1 => rfl
  | case2 index name extent ns before ih =>
    have hbefore : before.countP Notice.isUnreadable = 0 := by
      simp only [before]
      split
      · rfl
      · rfl
    rw [List.cons_append, List.countP_cons_of_neg (by simp [Notice.isUnreadable]),
      List.countP_append, hbefore, ih fun n hn ↦ h n (List.mem_cons_of_mem _ hn)]
  | case3 index n ns hn ih =>
    have hself := (Notice.not_of_isOfFile (h n List.mem_cons_self)).2
    rw [List.countP_cons_of_neg (by simp [hself])]
    exact ih fun n hn ↦ h n (List.mem_cons_of_mem _ hn)

end Relocations

end Harmonograph
