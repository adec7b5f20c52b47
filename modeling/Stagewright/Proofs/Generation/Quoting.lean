import Stagewright.Proofs.Code.Rendering
import Stagewright.Proofs.Generation.Reading
import Stagewright.Proofs.Text.Identifier
import Stagewright.Proofs.Text.Quoting

/-!
Names that stand in a module as they are: that of the job and the keys of connections between double
quotes, and those of a stage in a comment. Nothing in them is escaped, so whether they stay where
they are put depends on what they hold.
-/

namespace Stagewright

namespace Text

/-- Text without an end of a line. -/
def OneRow (s : String) : Prop := ∀ c ∈ s.toList, c ≠ '\n' ∧ c ≠ '\r'

instance (s : String) : Decidable (OneRow s) := List.decidableBAll _ s.toList

theorem oneRow_append {a b : String} : OneRow (a ++ b) ↔ OneRow a ∧ OneRow b := by
  simp only [OneRow, String.toList_append, List.forall_mem_append]

theorem isIdentifier_oneRow {s : String} (identifier : isIdentifier s) : OneRow s := by
  have newline := @isIdentifier_not_mem s '\n' identifier (by decide) (by decide)
  have carriage := @isIdentifier_not_mem s '\r' identifier (by decide) (by decide)
  intro c member
  exact ⟨fun same => newline (same ▸ member), fun same => carriage (same ▸ member)⟩

/-- Behind `opening` a value stands in the text between double quotes, and what is read there is the
value exactly if that can be put between quotes as it is. -/
def Quotes (named : List Char → Option Char) (text opening value : String) : Prop :=
  ∃ before after, text = before ++ opening ++ "\"" ++ value ++ "\"" ++ after ∧
    (ReadsAs named ("\"" ++ value ++ "\"" ++ after) value ↔ StandsInQuotes value)

theorem quotes_of_line {named : List Char → Option Char}
    {text before opening value closing after : String}
    (place : text = before ++ (opening ++ "\"" ++ value ++ "\"" ++ closing) ++ "\n" ++ after)
    (last : '"' ∉ closing.toList) : Quotes named text opening value := by
  -- The line ends with `closing`, whatever quotes there are in the text behind it.
  have line : '"' ∉ (closing ++ "\n" ++ after).toList.takeWhile (· != '\n') := by
    intro member
    have inside : '"' ∈ (closing.toList ++ '\n' :: after.toList).takeWhile (· != '\n') := by
      simpa using member
    rw [List.takeWhile_append] at inside
    split at inside
    · exact last (by simpa using inside)
    · exact last ((List.takeWhile_sublist _).subset inside)
  refine ⟨before, closing ++ "\n" ++ after, ?_, readsAs_iff line⟩
  rw [place]
  simp only [String.append_assoc]

end Text

open Text

namespace Code

theorem Program.logger_line (program : Program) (name : String) :
    ∃ after, program.module name = unlines ((preamble name).take 5) ++ "\n" ++
      ("log = logging.getLogger(" ++ "\"" ++ ("connforge.job." ++ name) ++ "\"" ++ ")") ++ "\n" ++
        after := by
  have line : "log = logging.getLogger(\"connforge.job." ++ name ++ "\")" =
      "log = logging.getLogger(" ++ "\"" ++ ("connforge.job." ++ name) ++ "\"" ++ ")" :=
    String.toList_inj.mp (by simp)
  have lines : preamble name ++ [""].intercalate program.groups ++ [""] =
      (preamble name).take 5 ++ ("log = logging.getLogger(\"connforge.job." ++ name ++ "\")") ::
        ((preamble name).drop 6 ++ [""].intercalate program.groups ++ [""]) := by
    simp [preamble]
  rw [module_eq, lines, unlines_around (by simp [preamble]) (by simp [preamble]), line]
  exact ⟨_, rfl⟩

/-- A key that is looked up stands between double quotes, and no other quote is behind it. -/
theorem lookup_text_eq {e : Expr} {key : String} (found : e.lookup? = some key) :
    ∃ closing, '"' ∉ closing.toList ∧
      e.text = "global_map.get(" ++ "\"" ++ key ++ "\"" ++ closing := by
  have split (opening closing : String) :
      opening ++ "\"" ++ key ++ ("\"" ++ closing) = opening ++ "\"" ++ key ++ "\"" ++ closing :=
    String.append_assoc.symm
  cases e with
  | published other =>
    obtain rfl := Option.some.inj found
    exact ⟨")", by decide, split "global_map.get(" ")"⟩
  | recordCount other =>
    obtain rfl := Option.some.inj found
    exact ⟨", 0)", by decide, split "global_map.get(" ", 0)"⟩
  | _ => exact absurd found (by simp [Expr.lookup?])

end Code

namespace Generation

open Code

variable {program : Program} {stage : Stage} {settings : Settings} {kind : StageKind}

/-- The comment with the names of a stage stands on a line of the text, and ends with that line
exactly if the component of the stage does not end it. -/
def CommentStands (text : String) (stage : Stage) : Prop :=
  let comment := "# " ++ stage.cid ++ " (" ++ stage.family ++ ")"
  (∃ before after, text = before ++ "\n" ++ indent 1 ++ comment ++ "\n" ++ after) ∧
    (OneRow comment ↔ OneRow stage.component)

/-- What the code of a stage looks up it binds, under a key that is made of the connection of the
stage and stands in the text between double quotes. -/
def LookupsQuoted (named : List Char → Option Char) (text : String) (view : View) (code : Code) :
    Prop :=
  ∀ line ∈ code, ∀ e ∈ line.statement.exprs, ∀ key, e.lookup? = some key →
    (key = Role.conn.key (view.trimmed "connection") ∨ key = countKey (view.trimmed "connection")) ∧
      ∃ x, line.statement = .bind x e ∧
        Quotes named text
          ("\n" ++ indent 1 ++ indent line.depth ++ x.text ++ " = global_map.get(") key

theorem comment_stands (identifier : isIdentifier stage.cid)
    (held : fragment kind ⟨stage, settings⟩ ∈ program) (name : String) :
    CommentStands (program.module name) stage := by
  obtain ⟨before, after, place⟩ := program.line_stands held List.mem_cons_self name
  have cid := isIdentifier_oneRow identifier
  have family : OneRow stage.family ↔ OneRow stage.component := by
    unfold Stage.family
    split
    · rename_i unnamed
      have silent : OneRow stage.component := by
        rw [String.isEmpty_iff.mp unnamed]
        decide
      exact iff_of_true cid silent
    · exact Iff.rfl
  have words : OneRow "# " ∧ OneRow " (" ∧ OneRow ")" := by decide
  refine ⟨⟨before, after, ?_⟩, by simp [oneRow_append, words, cid, family]⟩
  rw [place, ← String.append_assoc]
  rfl

theorem lookups_quoted (named : List Char → Option Char)
    (held : fragment kind ⟨stage, settings⟩ ∈ program) (name : String) :
    LookupsQuoted named (program.module name) ⟨stage, settings⟩
      (stageCode kind ⟨stage, settings⟩) := by
  intro line member e inside key found
  have from_ := stageCode_from kind ⟨stage, settings⟩ line member
  obtain ⟨x, bound, which⟩ := from_.lookup inside found
  refine ⟨?_, x, bound, ?_⟩
  · rcases which with rfl | rfl
    · exact .inl (Option.some.inj found).symm
    · exact .inr (Option.some.inj found).symm
  · obtain ⟨closing, last, lookup⟩ := lookup_text_eq found
    have bindings : " = global_map.get(" = " = " ++ "global_map.get(" := rfl
    have statement : line.statement.text = x.text ++ " = " ++ e.text := by
      rw [bound]
      rfl
    have text : line.text ∈ (stageCode kind ⟨stage, settings⟩).texts := List.mem_map_of_mem member
    have filled : line.text ≠ "" := stageCode_lines_ne_empty kind _ _ text
    have some : line.statement.text ≠ "" := by
      intro empty
      exact filled (by rw [Line.text, indented, empty]; rfl)
    obtain ⟨before, after, place⟩ := program.line_stands held
      (List.mem_cons_of_mem _ (List.mem_map_of_mem text)) name
    have written : "\n" ++ indented 1 line.text = "\n" ++ indent 1 ++ indent line.depth ++ x.text ++
        " = global_map.get(" ++ "\"" ++ key ++ "\"" ++ closing := by
      rw [indented_eq filled, Line.text, indented_eq some, statement, lookup, bindings]
      simp only [String.append_assoc]
    refine @quotes_of_line _ _ before _ key closing after ?_ last
    rw [place, ← written, ← String.append_assoc]

/-- In the module of a job that has been read, the name of the job and each key that a stage looks
up are read as themselves exactly if they can be put between double quotes as they are, and the
comment of a stage is one line exactly if the component of the stage is. -/
theorem read_job_quoted {document overrides environment : Mapping} {source : Option String}
    {job : Job} (named : List Char → Option Char)
    (read : (Job.read document overrides environment source).1 = .ok job) :
    ((∃ program, (generateProgram .standard job).1 = .ok program) ↔ WritesOut job) ∧
      ∀ program, (generateProgram .standard job).1 = .ok program →
        Quotes named (program.module job.name)
          (unlines ((Program.preamble job.name).take 5) ++ "\n" ++ "log = logging.getLogger(")
          ("connforge.job." ++ job.name) ∧
        ∀ (i : Nat) (stage : Stage), job.stages[i]? = some stage → ∃ fragment,
          program[i]? = some fragment ∧ CommentStands (program.module job.name) stage ∧
          LookupsQuoted named (program.module job.name) ⟨stage, job.settings⟩ fragment.code := by
  have accepted := Job.read_accepted read
  refine ⟨exists_generated_iff accepted, fun program made => ?_⟩
  have generates := (generates_of_ok accepted made).2
  obtain ⟨after, logger⟩ := program.logger_line job.name
  refine ⟨?_, fun i stage place => ?_⟩
  · refine @quotes_of_line _ _ "" _ _ ")" after (logger.trans ?_) (by decide)
    simp only [String.append_assoc, String.empty_append]
  · obtain ⟨kind, known⟩ := Option.isSome_iff_exists.mp
      (accepted.known stage (List.mem_of_getElem? place))
    have stands := (generates.getElem? i _).mpr ⟨stage, kind, place, known, rfl⟩
    have held := List.mem_of_getElem? stands
    have identifier := accepted.identifiers stage (List.mem_of_getElem? place)
    exact ⟨_, stands, comment_stands identifier held job.name,
      lookups_quoted named held job.name⟩

/-- The names in the document of two stages are read as themselves. -/
theorem committing_job_quoted :
    (Job.read committingDocument [] [] none).1 = .ok committingJob ∧
      ∃ program, (generateProgram .standard committingJob).1 = .ok program ∧
        Quotes (fun _ => none) (program.module committingJob.name)
          (unlines ((Program.preamble committingJob.name).take 5) ++ "\n" ++
            "log = logging.getLogger(")
          ("connforge.job." ++ committingJob.name) ∧
        StandsInQuotes ("connforge.job." ++ committingJob.name) := by
  have read : (Job.read committingDocument [] [] none).1 = .ok committingJob := rfl
  obtain ⟨generated, quoted⟩ := read_job_quoted (fun _ => none) read
  obtain ⟨program, made⟩ := generated.mpr (writesOut_of_none_refused (by decide +kernel))
  have stands : StandsInQuotes ("connforge.job." ++ committingJob.name) :=
    ⟨.of_plain (by decide), by decide⟩
  exact ⟨read, program, made, (quoted program made).1, stands⟩

/-- A job whose name holds a double quote. -/
def quotingJob : Job := { name := "a\"b" }

/-- The name of a job is not kept inside its quotes if it holds one. -/
theorem quote_in_name_not_quoted :
    (Job.read [(.text "job", .text "a\"b")] [] [] none).1 = .ok quotingJob ∧
      (generate .standard quotingJob).1 = .ok (Program.module [] quotingJob.name) ∧
      ∃ after, Program.module [] quotingJob.name =
          unlines ((Program.preamble quotingJob.name).take 5) ++ "\n" ++
            ("log = logging.getLogger(" ++ "\"" ++ ("connforge.job." ++ quotingJob.name) ++ "\"" ++
              ")") ++ "\n" ++ after ∧
        ∀ named, ¬ReadsAs named ("\"" ++ ("connforge.job." ++ quotingJob.name) ++ "\"" ++
          (")" ++ "\n" ++ after)) ("connforge.job." ++ quotingJob.name) := by
  obtain ⟨after, place⟩ := Program.logger_line [] quotingJob.name
  refine ⟨rfl, rfl, after, place, ?_⟩
  intro named reads
  have last : '"' ∉ (")" ++ "\n" ++ after).toList.takeWhile (· != '\n') := by simp
  have inert := ((readsAs_iff last).mp reads).1
  exact inert.quote_not_mem (by decide) (by decide) (by decide)

end Generation

end Stagewright
