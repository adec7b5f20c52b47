import Stagewright.Proofs.Job.Described
import Stagewright.Proofs.Job.Environment

/-!
Documents that differ in what stages come after the first ones. A stage that is refused is refused
for what it is and for the stages before it; so nothing that comes later can make up for it, or be
told in its place.
-/

namespace Stagewright

/-- Faults that are found in a stage. -/
def JobFault.isOfStage : JobFault → Bool
  | .badStage _ _ | .unknownKind _ _ | .badCid _ | .duplicateCid _ => true
  | _ => false

/-- A fault is told with the place that it was found in, except for a text of a stage that is nested
too deep. -/
theorem LoadError.ofFault_cases (fault : JobFault) (source : Option String) :
    ofFault fault source = .job ⟨fault, source⟩ ∨
      ofFault fault source = .excess .depth ∧
        ∃ position, fault = .badStage position (.unwritable .depth) := by
  unfold ofFault
  split
  · exact .inr ⟨rfl, _, rfl⟩
  · exact .inl rfl

theorem LoadError.ofFault_eq_job {fault : JobFault} {source : Option String} {e : JobError}
    (told : ofFault fault source = .job e) : e = ⟨fault, source⟩ := by
  rcases ofFault_cases fault source with same | ⟨deep, -⟩
  · exact LoadError.job.inj (told.symm.trans same)
  · exact nomatch told.symm.trans deep

namespace Job

open Attempt Variable

section Checking

variable {seen : List String} {position : Nat} {values more : List Value}

/-- The second of two parts is checked against the cids of the first, at the positions behind it. -/
theorem checkStages_append :
    checkStages seen position (values ++ more) = do
      let first ← checkStages seen position values
      let rest ← checkStages (seen ++ first.map (·.cid)) (position + values.length) more
      return first ++ rest := by
  induction values generalizing seen position with
  | nil =>
    change checkStages seen position more = do
      let rest ← checkStages (seen ++ []) position more
      return [] ++ rest
    simp
  | cons v values ih =>
    have places : position + 1 + values.length = position + (values.length + 1) := by omega
    simp [checkStages, ih, places, bind_assoc]

theorem checkStages_append_error {fault : JobFault}
    (refused : checkStages seen position values = .error fault) :
    checkStages seen position (values ++ more) = .error fault := by
  rw [checkStages_append, refused]
  rfl

theorem checkStages_append_ok {stages : List Stage}
    (checked : checkStages seen position (values ++ more) = .ok stages) :
    checkStages seen position values = .ok (stages.take values.length) ∧
      values.length ≤ stages.length := by
  rw [checkStages_append] at checked
  simp only [bind_ok, pure_ok] at checked
  obtain ⟨first, accepted, rest, -, rfl⟩ := checked
  have length := (checkStages_ok_iff.mp accepted).1.length_eq
  rw [length, List.take_left, List.length_append]
  exact ⟨accepted, Nat.le_add_right _ _⟩

end Checking

theorem nameOf_error {document : Mapping} {source : Option String} {fault : JobFault}
    (unnamed : nameOf document source = .error fault) : fault = .missingName := by
  simp only [nameOf] at unnamed
  split at unnamed
  · simp at unnamed
  · split at unnamed
    · simp at unnamed
    · exact (Except.error.inj unnamed).symm

theorem stageValues_error {v : Option Value} {fault : JobFault}
    (unlisted : stageValues v = .error fault) : fault = .badStages := by
  unfold stageValues at unlisted
  split at unlisted
  · simp at unlisted
  · simp at unlisted
  · exact (Except.error.inj unlisted).symm

/-- A stage is at fault if the name of the job and the list of its stages are in order, and the
stages are not. -/
theorem ofResolved_error_iff {resolved : Mapping} {source : Option String} {fault : JobFault}
    (ofStage : fault.isOfStage = true) :
    ofResolved resolved source = .error fault ↔
      (∃ name, nameOf resolved source = .ok name) ∧
        ∃ values, stageValues (resolved.get? "stages") = .ok values ∧
          checkStages [] 1 values = .error fault := by
  simp only [ofResolved, bind_error]
  constructor
  · rintro (unnamed | ⟨name, named, unlisted | ⟨values, listed, refused | ⟨stages, -, rest⟩⟩⟩)
    · obtain rfl := nameOf_error unnamed
      exact absurd ofStage (by decide)
    · obtain rfl := stageValues_error unlisted
      exact absurd ofStage (by decide)
    · exact ⟨⟨name, named⟩, values, listed, refused⟩
    · split at rest
      · cases rest
      · obtain rfl := Except.error.inj rest
        exact absurd ofStage (by decide)
  · rintro ⟨⟨name, named⟩, values, listed, refused⟩
    exact .inr ⟨name, named, .inr ⟨values, listed, .inl refused⟩⟩

/-- The document with other stages, and everything else as it is. -/
def withStages (document : Mapping) (stages : List Value) : Mapping :=
  Dict.put document (.text "stages") (.list stages)

theorem withStages_get?_of_ne (document : Mapping) (stages : List Value) {key : String}
    (other : key ≠ "stages") : (withStages document stages).get? key = document.get? key :=
  Mapping.get?_put_of_ne document _ other

theorem withStages_get? (document : Mapping) (stages : List Value) :
    (withStages document stages).get? "stages" = some (.list stages) := by
  rw [withStages, Mapping.get?, Dict.get?_put_beq, if_pos (by decide)]

theorem entries?_withStages (document : Mapping) (stages : List Value) :
    Value.entries? ((withStages document stages).get? "variables") =
      Value.entries? (document.get? "variables") := by
  rw [withStages_get?_of_ne document stages (by decide)]

/-- The values of a document are those that it would have with other stages, but for the stages
themselves. -/
theorem mem_body_withStages {document : Mapping} {stages : List Value} {v : Value}
    (held : v ∈ (body (withStages document stages)).map Prod.snd) :
    v = .list stages ∨
      ∀ other, v ∈ (body (withStages document other)).map Prod.snd := by
  obtain ⟨entry, kept, rfl⟩ := List.mem_map.mp held
  obtain ⟨put, apart⟩ := List.mem_filter.mp kept
  refine (Dict.mem_put put).imp_right fun always other => ?_
  exact List.mem_map_of_mem (List.mem_filter.mpr ⟨always _, apart⟩)

theorem stages_mem_body (document : Mapping) (stages : List Value) :
    .list stages ∈ (body (withStages document stages)).map Prod.snd := by
  have found : (body (withStages document stages)).get? "stages" = some (.list stages) :=
    (Mapping.get?_erase _ (by decide)).trans (withStages_get? document stages)
  obtain ⟨entry, kept, same⟩ := Dict.mem_of_get? found
  exact same ▸ List.mem_map_of_mem kept

section Resolving

variable {document : Mapping} {stages : List Value} {scope : Scope}

theorem ofValue_mostLevels_map (m : Mapping) : Reach.ofValue scope Excess.mostLevels (.map m) =
    Reach.ofItems scope (Excess.mostLevels - 1) (m.map Prod.snd) := by
  rw [Reach.ofValue_map]
  rfl

/-- If the references of a document can be replaced, they can be in any document with more stages up
to the first of these in which they cannot. -/
theorem stop_withStages_append (more : List Value)
    (goesOn : (Reach.ofValue scope Excess.mostLevels
      (.map (body (withStages document stages)))).stop = none) :
    (Reach.ofValue scope Excess.mostLevels
        (.map (body (withStages document (stages ++ more))))).stop =
      (Reach.ofValue scope (Excess.mostLevels - 1) (.list more)).stop := by
  rw [ofValue_mostLevels_map] at goesOn ⊢
  have each := Reach.ofItems_stop_eq_none.mp goesOn
  have first : (Reach.ofItems scope (Excess.mostLevels - 2) stages).stop = none :=
    each _ (stages_mem_body document stages)
  have last : (Reach.ofValue scope (Excess.mostLevels - 1) (.list (stages ++ more))).stop =
      (Reach.ofValue scope (Excess.mostLevels - 1) (.list more)).stop :=
    Reach.ofItems_append_stop more first
  cases stop : (Reach.ofValue scope (Excess.mostLevels - 1) (.list more)).stop with
  | none =>
    refine Reach.ofItems_stop_eq_none.mpr fun v held => ?_
    obtain rfl | always := mem_body_withStages held
    · exact last.trans stop
    · exact each v (always stages)
  | some e =>
    cases ended : (Reach.ofItems scope (Excess.mostLevels - 1)
      ((body (withStages document (stages ++ more))).map Prod.snd)).stop with
    | none =>
      have none := Reach.ofItems_stop_eq_none.mp ended _ (stages_mem_body document _)
      simp [last, stop] at none
    | some found =>
      obtain ⟨v, held, here⟩ := Reach.ofItems_stop_eq_some ended
      obtain rfl | always := mem_body_withStages held
      · rw [← here, last, stop]
      · simp [each v (always stages)] at here

/-- And of the stages of a document any that come first can be left alone. -/
theorem stop_withStages_prefix {more : List Value}
    (goesOn : (Reach.ofValue scope Excess.mostLevels
      (.map (body (withStages document (stages ++ more))))).stop = none) :
    (Reach.ofValue scope Excess.mostLevels
      (.map (body (withStages document stages)))).stop = none := by
  rw [ofValue_mostLevels_map] at goesOn ⊢
  have each := Reach.ofItems_stop_eq_none.mp goesOn
  have all : (Reach.ofItems scope (Excess.mostLevels - 2) (stages ++ more)).stop = none :=
    each _ (stages_mem_body document _)
  refine Reach.ofItems_stop_eq_none.mpr fun v held => ?_
  obtain rfl | always := mem_body_withStages held
  · exact Reach.ofItems_stop_eq_none.mpr fun v among =>
      Reach.ofItems_stop_eq_none.mp all v (List.mem_append_left _ among)
  · exact each v (always _)

variable {source : Option String}

theorem body_withStages_get? (stages : List Value) {key : String} (other : key ≠ "stages")
    (visible : key ≠ "variables") :
    Mapping.get? (substituteEntries scope (body (withStages document stages))).1 key =
      (document.get? key).map fun v => (substituteValue scope v).1 := by
  rw [substituteEntries_get?, body, Mapping.get?_erase _ visible, withStages_get?_of_ne _ _ other]

theorem stageValues_withStages (stages : List Value) :
    stageValues (Mapping.get? (substituteEntries scope (body (withStages document stages))).1
      "stages") = .ok (stages.map fun v => (substituteValue scope v).1) := by
  rw [substituteEntries_get?, body, Mapping.get?_erase _ (by decide), withStages_get?,
    Option.map_some, substituteValue, substituteItems_eq]
  cases stages <;> rfl

/-- The name of a job does not depend on its stages. -/
theorem nameOf_withStages (stages more : List Value) :
    nameOf (substituteEntries scope (body (withStages document stages))).1 source =
      nameOf (substituteEntries scope (body (withStages document more))).1 source := by
  simp only [nameOf, body_withStages_get? _ (by decide : "job" ≠ "stages") (by decide)]

end Resolving

section Reading

variable {document overrides environment own : Mapping} {source : Option String}

/-- A document is at fault once its references have been replaced and its name can be written
out. -/
theorem read_error_iff {e : JobError}
    (declared : Value.entries? (document.get? "variables") = some own) :
    (Job.read document overrides environment source).1 = .error (.job e) ↔
      (Reach.ofValue (scopeOf environment own overrides) Excess.mostLevels
          (.map (body document))).stop = none ∧
        (Value.given? (Mapping.get? (substituteEntries (scopeOf environment own overrides)
          (body document)).1 "job")).bind Value.excess? = none ∧
        ofResolved (substituteEntries (scopeOf environment own overrides) (body document)).1
            source = .error e.fault ∧
          LoadError.ofFault e.fault source = .job e := by
  cases stop : (Reach.ofValue (scopeOf environment own overrides) Excess.mostLevels
    (.map (body document))).stop with
  | some found => simp [read_of_stop source declared stop]
  | none =>
    rw [read_of_goesOn source declared stop, conclude]
    cases (Value.given? (Mapping.get? (substituteEntries (scopeOf environment own overrides)
      (body document)).1 "job")).bind Value.excess? with
    | some found => simp
    | none =>
      cases ofResolved (substituteEntries (scopeOf environment own overrides)
          (body document)).1 source with
      | ok job => simp
      | error fault =>
        simp only [Except.error.injEq, true_and]
        constructor
        · intro told
          obtain rfl := LoadError.ofFault_eq_job told
          exact ⟨rfl, told⟩
        · rintro ⟨rfl, told⟩
          exact told

/-- A stage that is refused is refused whatever comes after it, if the references in that can be
replaced at all. -/
theorem read_append_error {stages : List Value} (more : List Value) {e : JobError}
    (ofStage : e.fault.isOfStage = true)
    (refused : (Job.read (withStages document stages) overrides environment source).1 =
      .error (.job e)) :
    ∃ own, Value.entries? (document.get? "variables") = some own ∧
      ∀ stop, (Reach.ofValue (scopeOf environment own overrides) (Excess.mostLevels - 1)
          (.list more)).stop = stop →
        (Job.read (withStages document (stages ++ more)) overrides environment source).1 =
          .error (stop.elim (.job e) .excess) := by
  cases declared : Value.entries? (document.get? "variables") with
  | none =>
    rw [read_of_undeclared source ((entries?_withStages _ _).trans declared)] at refused
    obtain rfl := LoadError.job.inj (Except.error.inj refused)
    simp [JobFault.isOfStage] at ofStage
  | some own =>
    have declared (stages : List Value) := (entries?_withStages document stages).trans declared
    refine ⟨own, rfl, fun stop ends => ?_⟩
    obtain ⟨goesOn, writable, faulty, place⟩ := (read_error_iff (declared stages)).mp refused
    obtain ⟨⟨name, named⟩, values, listed, unchecked⟩ := (ofResolved_error_iff ofStage).mp faulty
    obtain rfl := Except.ok.inj ((stageValues_withStages _).symm.trans listed)
    have notStages : "job" ≠ "stages" := by decide
    have notVariables : "job" ≠ "variables" := by decide
    have onward := (stop_withStages_append more goesOn).trans ends
    cases stop with
    | some found => rw [read_of_stop source (declared (stages ++ more)) onward, Option.elim_some]
    | none =>
      refine (read_error_iff (declared (stages ++ more))).mpr ⟨onward, ?_, ?_, place⟩
      · rw [body_withStages_get? _ notStages notVariables] at writable ⊢
        exact writable
      · rw [ofResolved_error_iff ofStage, nameOf_withStages (stages ++ more) stages,
          stageValues_withStages]
        refine ⟨⟨name, named⟩, _, rfl, ?_⟩
        rw [List.map_append]
        exact checkStages_append_error unchecked

/-- Of a job that is read the first stages are a job as well. -/
theorem read_append_ok {stages more : List Value} {job : Job}
    (read : (Job.read (withStages document (stages ++ more)) overrides environment source).1 =
      .ok job) :
    (Job.read (withStages document stages) overrides environment source).1 =
        .ok { job with stages := job.stages.take stages.length } ∧
      stages.length ≤ job.stages.length := by
  obtain ⟨fits, own, declared, made⟩ := read_ok_iff.mp read
  have declared' := (entries?_withStages document stages).trans
    ((entries?_withStages document (stages ++ more)).symm.trans declared)
  obtain ⟨goesOn, writable⟩ := (excess?_eq_none_iff declared).mp fits
  rw [← Reach.ofValue_mostLevels] at goesOn
  obtain ⟨named, ⟨values, listed, checked⟩, ⟨settings, set, same⟩, place⟩ :=
    ofResolved_ok_iff.mp made
  obtain rfl := Except.ok.inj ((stageValues_withStages _).symm.trans listed)
  rw [List.map_append] at checked
  obtain ⟨first, fewer⟩ := checkStages_append_ok checked
  rw [List.length_map] at first fewer
  refine ⟨read_ok_iff.mpr ⟨(excess?_eq_none_iff declared').mpr ⟨?_, ?_⟩, own, declared',
    ofResolved_ok_iff.mpr ⟨?_, ⟨_, stageValues_withStages _, first⟩, ⟨settings, ?_, same⟩, place⟩⟩,
    fewer⟩
  · rw [← Reach.ofValue_mostLevels]
    exact stop_withStages_prefix goesOn
  · rw [Mapping.get?_erase _ (by decide), withStages_get?_of_ne _ _ (by decide)] at writable ⊢
    exact writable
  · exact (nameOf_withStages _ _).trans named
  · have notStages : "globals" ≠ "stages" := by decide
    have notVariables : "globals" ≠ "variables" := by decide
    exact (congrArg Value.entries? ((body_withStages_get? stages notStages notVariables).trans
      (body_withStages_get? (stages ++ more) notStages notVariables).symm)).trans set

end Reading

/-- What is wrong with the stages of a document is decided by those that come first: they are
refused for the same reason with any others behind them, unless the references in these cannot even
be replaced; and they are accepted if they are with others behind them, as the first stages of the
job. -/
theorem decided_by_first_stages (document overrides environment : Mapping)
    (source : Option String) (stages more : List Value) :
    (∀ e : JobError, e.fault.isOfStage = true →
      (Job.read (withStages document stages) overrides environment source).1 = .error (.job e) →
      ∃ own, Value.entries? (document.get? "variables") = some own ∧
        let scope := scopeOf environment own overrides
        let behind := Value.list more
        (Bounded scope (Excess.mostLevels - 1) behind →
          (Job.read (withStages document (stages ++ more)) overrides environment source).1 =
            .error (.job e)) ∧
        (¬Bounded scope (Excess.mostLevels - 1) behind →
          ∃ found, (Job.read (withStages document (stages ++ more)) overrides environment
              source).1 = .error (.excess found) ∧
            Exceeds scope (Excess.mostLevels - 1) behind found)) ∧
    ∀ job, (Job.read (withStages document (stages ++ more)) overrides environment source).1 =
        .ok job →
      (Job.read (withStages document stages) overrides environment source).1 =
          .ok { job with stages := job.stages.take stages.length } ∧
        stages.length ≤ job.stages.length := by
  refine ⟨fun e ofStage refused => ?_, fun job read => read_append_ok read⟩
  obtain ⟨own, declared, onward⟩ := read_append_error more ofStage refused
  refine ⟨own, declared, fun bounded => ?_, fun exceeds => ?_⟩
  · exact onward none (Reach.ofValue_stop_eq_none.mpr bounded)
  · cases stop : (Reach.ofValue (scopeOf environment own overrides) (Excess.mostLevels - 1)
      (.list more)).stop with
    | none => exact absurd (Reach.ofValue_stop_eq_none.mp stop) exceeds
    | some found => exact ⟨found, onward _ stop, Reach.ofValue_stop_eq_some stop⟩

/-- The entry of a stage that goes by a cid. -/
def entryOf (cid : String) : Value := .map [(.text "cid", .text cid)]

/-- A document with a variable that holds a number of too many digits. -/
def counting : Mapping :=
  [(.text "job", .text "j"),
    (.text "variables", .map [(.text "n", .int (Nat.pow 10 Excess.mostDigits))])]

/-- The job of a document with two stages. -/
def pair : Job where
  name := "j"
  stages := [{ cid := "c", params := StageKind.connection.defaults },
    { cid := "d", params := StageKind.connection.defaults }]

/-- The second of two stages under one cid is refused, also with a third one behind it, which would
be refused itself. Of two stages that are accepted the first is accepted on its own. -/
theorem second_of_two_refused :
    (Job.read (withStages counting ([entryOf "c", entryOf "c"] ++ [.null])) [] [] none).1 =
        .error (.job ⟨.duplicateCid "c", none⟩) ∧
      (Job.read (withStages counting [entryOf "c"]) [] [] none).1 =
        .ok { pair with stages := pair.stages.take 1 } := by
  have refused : (Job.read (withStages counting [entryOf "c", entryOf "c"]) [] [] none).1 =
      .error (.job ⟨.duplicateCid "c", none⟩) := rfl
  have accepted : (Job.read (withStages counting ([entryOf "c"] ++ [entryOf "d"])) [] [] none).1 =
      .ok pair := rfl
  obtain ⟨own, -, behind, -⟩ :=
    (decided_by_first_stages counting [] [] none [entryOf "c", entryOf "c"] [.null]).1 _ rfl refused
  refine ⟨behind (Reach.ofValue_stop_eq_none.mp rfl), ?_⟩
  exact ((decided_by_first_stages counting [] [] none [entryOf "c"] [entryOf "d"]).2 _ accepted).1

/-- Of two stages the first is refused on its own, and with the second behind it nothing is said of
it: the second asks for a number that cannot be written out. -/
theorem refusal_not_always_kept :
    (Job.read (withStages counting [.null]) [] [] none).1 =
        .error (.job ⟨.badStage 1 .notMapping, none⟩) ∧
      (Job.read (withStages counting ([.null] ++ [entryOf "$\x7bn\x7d"])) [] [] none).1 =
        .error (.excess .digits) := by
  refine ⟨rfl, ?_⟩
  have declared : Value.entries? ((withStages counting ([.null] ++ [entryOf "$\x7bn\x7d"])).get?
      "variables") = some [(.text "n", .int (Nat.pow 10 Excess.mostDigits))] := by rfl
  have stop : (Reach.ofValue (scopeOf [] [(.text "n", .int (Nat.pow 10 Excess.mostDigits))] [])
      Excess.mostLevels (.map (body (withStages counting
        ([.null] ++ [entryOf "$\x7bn\x7d"]))))).stop = some .digits := by decide +kernel
  rw [read_of_stop none declared stop]

end Job

end Stagewright
