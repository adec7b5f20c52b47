import Stagewright.Proofs.Value.Dict

/-!
Values as trees: the texts they hold, and that their mappings have each key once.
-/

namespace Stagewright.Value

/-- A value that is no text and in which no text is looked for. -/
def isLeaf : Value → Bool
  | .text _ | .list _ | .map _ => false
  | _ => true

/-- Induction on a value by its texts, lists and mappings. -/
theorem tree_induction {motive : Value → Prop} (text : ∀ s, motive (.text s))
    (list : ∀ items, (∀ v ∈ items, motive v) → motive (.list items))
    (map : ∀ entries, (∀ v ∈ entries.map Prod.snd, motive v) → motive (.map entries))
    (leaf : ∀ v, v.isLeaf = true → motive v) (v : Value) : motive v := by
  refine @Value.rec motive (fun items => ∀ v ∈ items, motive v)
    (fun entries => ∀ v ∈ entries.map Prod.snd, motive v) (fun e => motive e.2)
    ?scalar list ?pair ?set map ?again ?noItems ?items ?noEntries ?entries ?entry v
  case scalar =>
    intro s
    cases s with
    | text s => exact text s
    | _ => exact leaf _ rfl
  case pair => exact fun _ _ _ _ => leaf _ rfl
  case set => exact fun _ => leaf _ rfl
  case again => exact fun _ => leaf _ rfl
  case noItems => simp
  case items => exact fun _ _ first rest => List.forall_mem_cons.mpr ⟨first, rest⟩
  case noEntries => simp
  case entries => exact fun _ _ first rest => List.forall_mem_cons.mpr ⟨first, rest⟩
  case entry => exact fun _ _ value => value

/-- Induction on a value where a mapping goes like the list of its values. -/
theorem list_induction {motive : Value → Prop} (text : ∀ s, motive (.text s))
    (list : ∀ items, (∀ v ∈ items, motive v) → motive (.list items))
    (map : ∀ entries, motive (.list (entries.map Prod.snd)) → motive (.map entries))
    (leaf : ∀ v, v.isLeaf = true → motive v) (v : Value) : motive v :=
  tree_induction text list (fun entries values => map entries (list _ values)) leaf v

mutual

/-- The texts of a value in the order in which they stand in it, those of keys excepted. -/
def texts : Value → List String
  | .text s => [s]
  | .list items => textsOfItems items
  | .map entries => textsOfEntries entries
  | _ => []

def textsOfItems : List Value → List String
  | [] => []
  | v :: rest => v.texts ++ textsOfItems rest

def textsOfEntries : List (Scalar × Value) → List String
  | [] => []
  | (_, v) :: rest => v.texts ++ textsOfEntries rest

end

theorem texts_list (items : List Value) : (Value.list items).texts = items.flatMap texts := by
  rw [texts]
  induction items with
  | nil => rfl
  | cons v rest ih => rw [textsOfItems, ih, List.flatMap_cons]

theorem texts_map (entries : List (Scalar × Value)) :
    (Value.map entries).texts = (entries.map Prod.snd).flatMap texts := by
  rw [texts]
  induction entries with
  | nil => rfl
  | cons e rest ih => rw [textsOfEntries, ih, List.map_cons, List.flatMap_cons]

theorem texts_leaf {v : Value} (leaf : v.isLeaf = true) : v.texts = [] := by
  unfold isLeaf at leaf
  split at leaf
  case h_4 => rw [texts] <;> assumption
  all_goals simp at leaf

/-- No mapping that is walked through holds a key twice. -/
inductive Keyed : Value → Prop
  | text {s} : Keyed (.text s)
  | leaf {v} : v.isLeaf = true → Keyed v
  | list {items} : (∀ v ∈ items, Keyed v) → Keyed (.list items)
  | map {entries : Mapping} : entries.Distinct → (∀ v ∈ entries.map Prod.snd, Keyed v) →
      Keyed (.map entries)

theorem keyed_list {items : List Value} : (Value.list items).Keyed ↔ ∀ v ∈ items, v.Keyed := by
  constructor
  · intro keyed
    cases keyed with
    | list keyed => exact keyed
    | leaf leaf => simp [isLeaf] at leaf
  · exact .list

theorem keyed_map {entries : Mapping} :
    (Value.map entries).Keyed ↔ entries.Distinct ∧ ∀ v ∈ entries.map Prod.snd, v.Keyed := by
  constructor
  · intro keyed
    cases keyed with
    | map distinct keyed => exact ⟨distinct, keyed⟩
    | leaf leaf => simp [isLeaf] at leaf
  · exact fun keyed => .map keyed.1 keyed.2

/-- What stands under a key of a mapping is as well keyed as the mapping. -/
theorem Keyed.get? {entries : Mapping} (keyed : (Value.map entries).Keyed) {key : String}
    {v : Value} (found : entries.get? key = some v) : v.Keyed := by
  obtain ⟨entry, among, rfl⟩ := Dict.mem_of_get? found
  exact (keyed_map.mp keyed).2 entry.2 (List.mem_map_of_mem among)

end Stagewright.Value
