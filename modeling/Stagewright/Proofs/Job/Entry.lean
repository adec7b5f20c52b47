import Stagewright.Job.Stage
import Stagewright.Proofs.Attempt
import Stagewright.Proofs.Value.Tree

/-!
What a stage takes from the entry of a job that describes it.
-/

namespace Stagewright

/-- The entries of what stands under a key of a mapping are as well keyed as the mapping. -/
theorem Value.Keyed.entries? {entries inner : Mapping} (keyed : (Value.map entries).Keyed)
    {key : String} (held : Value.entries? (entries.get? key) = some inner) :
    (Value.map inner).Keyed := by
  unfold Value.entries? at held
  cases given : Value.given? (entries.get? key) with
  | none =>
    rw [given] at held
    obtain rfl := Option.some.inj held
    exact keyed_map.mpr ⟨.nil, by simp⟩
  | some v =>
    have found : entries.get? key = some v := (Option.filter_eq_some_iff.mp given).1
    rw [given] at held
    cases v with
    | map inner =>
      obtain rfl := Option.some.inj held
      exact keyed.get? found
    | _ => simp at held

namespace Stage

open Attempt

/-- A stage and the entry it comes from. Its parameters are those of the entry, and the defaults for
its kind where the entry has none; what it takes for text has been written out. -/
structure ComesFrom (entries : Mapping) (stage : Stage) : Prop where
  cid : entries.get? "cid" = some (.text stage.cid)
  kind : stage.kind = ((entries.get? "kind").map fun v => Text.lower v.spell).getD "connection"
  params : ∃ params, Value.entries? (entries.get? "params") = some params ∧
    ∀ key, Dict.get? stage.params key =
      (Dict.get? params key).or (Dict.get? (defaultsFor stage.kind) key)
  encrypted : ∃ encrypted, Value.entries? (entries.get? "encrypted") = some encrypted ∧
    stage.encrypted = encrypted.map fun e => (e.1, e.2.spell)
  component : stage.component =
    ((Value.given? (entries.get? "component")).map Value.spell).getD ""

/-- A value that is written out. -/
def written (v : Value) : Except StageFault String :=
  match v.excess? with
  | none => .ok v.spell
  | some e => .error (.unwritable e)

theorem written_ok {v : Value} {s : String} (spelled : written v = .ok s) : s = v.spell := by
  unfold written at spelled
  cases tooMuch : v.excess? with
  | none =>
    rw [tooMuch] at spelled
    exact (Except.ok.inj spelled).symm
  | some e => simp [tooMuch] at spelled

/-- A value that is written out, put through `f`, if there is one. -/
def writtenOr (default : String) (f : String → String) (v : Option Value) :
    Except StageFault String :=
  match v with
  | some v => f <$> written v
  | none => pure default

theorem writtenOr_ok {default s : String} {f : String → String} {v : Option Value}
    (spelled : writtenOr default f v = .ok s) : s = (v.map fun v => f v.spell).getD default := by
  cases v with
  | none => exact (pure_ok.mp spelled).symm
  | some v =>
    have spelled : f <$> written v = .ok s := spelled
    cases wrote : written v with
    | error e => simp [wrote] at spelled
    | ok t =>
      rw [wrote] at spelled
      rw [← Except.ok.inj spelled, written_ok wrote]
      rfl

/-- Entries with their values written out. -/
def writtenEntries (entries : Mapping) : Except StageFault (Dict Scalar String) :=
  entries.mapM fun e => do return (e.1, ← written e.2)

theorem writtenEntries_ok {entries : Mapping} {texts : Dict Scalar String}
    (spelled : writtenEntries entries = .ok texts) :
    texts = entries.map fun e => (e.1, e.2.spell) := by
  induction entries generalizing texts with
  | nil => exact (pure_ok.mp spelled).symm
  | cons e rest ih =>
    simp only [writtenEntries, List.mapM_cons, bind_ok, pure_ok] at spelled ih
    obtain ⟨_, ⟨s, wrote, rfl⟩, others, more, rfl⟩ := spelled
    rw [List.map_cons, ← ih more, written_ok wrote]

theorem ofValue_map (entries : Mapping) :
    ofValue (.map entries) =
      match Value.given? (entries.get? "cid") with
      | some (.text cid) => do
        let kind ← writtenOr "connection" Text.lower (entries.get? "kind")
        match Value.entries? (entries.get? "params") with
        | none => throw (.badParams cid)
        | some params =>
          match Value.entries? (entries.get? "encrypted") with
          | none => throw (.badEncrypted cid)
          | some encrypted => do
            let encrypted ← writtenEntries encrypted
            let component ← writtenOr "" id (Value.given? (entries.get? "component"))
            return { cid, params := (defaultsFor kind).update params, encrypted, kind, component }
      | _ => throw .missingCid := by
  rw [ofValue]
  rcases Value.given? (entries.get? "cid") with
    _ | (_ | _ | _ | _ | cid | _ | _ | _) | _ | _ | _ | _
  case some.scalar.text =>
    cases entries.get? "kind" <;> cases Value.given? (entries.get? "component") <;>
      cases Value.entries? (entries.get? "params") <;>
      cases Value.entries? (entries.get? "encrypted") <;> simp only [writtenOr, id_map] <;> rfl
  all_goals rfl

theorem ofValue_comesFrom {v : Value} {stage : Stage} (made : ofValue v = .ok stage)
    (keyed : v.Keyed) : ∃ entries, v = .map entries ∧ ComesFrom entries stage := by
  cases v with
  | map entries =>
    rw [ofValue_map] at made
    split at made
    case h_2 => exact (throw_ok.mp made).elim
    case h_1 cid named =>
      obtain ⟨kind, kinded, made⟩ := bind_ok.mp made
      split at made
      case h_1 => exact (throw_ok.mp made).elim
      case h_2 params hasParams =>
        split at made
        case h_1 => exact (throw_ok.mp made).elim
        case h_2 encrypted hasEncrypted =>
          simp only [bind_ok, pure_ok] at made
          obtain ⟨texts, spelled, component, written, rfl⟩ := made
          refine ⟨entries, rfl, ?_, writtenOr_ok kinded, ⟨params, hasParams, fun key => ?_⟩,
            ⟨encrypted, hasEncrypted, writtenEntries_ok spelled⟩, writtenOr_ok written⟩
          · exact (Option.filter_eq_some_iff.mp named).1
          · exact Dict.get?_update (Value.keyed_map.mp (keyed.entries? hasParams)).1 _ key
  | _ => simp [ofValue] at made

end Stage

end Stagewright
