/-
The two formats say the same.

A run has one result, and it is written by code of its own for each
format and for each way that a run ends. What the two have in common is
stated as `Agree` and holds of every command that is given once with the
one format and once with the other (`formats_agree`): the exit code is the
same, a result stands in the document as it is and in plain text up to
the blanks behind it, and a failure has the same message and the same hint
in both.

The document is one line whatever the texts in it are, and it is read
back. That takes that the number of the listed types is in the range of
the reader, and it is: there are hardly more types than the schema has
characters, and no text has 2 ^ 63 of them.
-/
import SchemaDocs.Proofs.CommandLine.Listing
import SchemaDocs.Proofs.CommandLine.Size
import SchemaDocs.Proofs.Json.Line

namespace SchemaDocs

namespace CommandLine

variable {environment : Environment} {invocation : Invocation}
  {read : Except ReadFault String} {result : Except Failure Output}
  {coloured : Bool}

-- ============================================================= documents

/-- What a document says of the result. -/
def dataOf : Except Failure Output → Json
  | .ok output => Json.sortedObject (("success", .bool true) :: output.members)
  | .error _ => .object [("success", .bool false)]

/-- What a document says of the failure. -/
def errorOf (coloured : Bool) : Except Failure Output → Json
  | .ok _ => .null
  | .error failure => failure.json coloured

/-- A document has three members, in this order. -/
theorem document_eq (coloured : Bool) (result : Except Failure Output) :
    document coloured result
      = .object [("data", dataOf result), ("error", errorOf coloured result),
        ("json_version", .string "1")] := by
  cases result <;> rfl

/-- The members of a result have keys of their own. -/
theorem nodup_members (output : Output) :
    ((("success", Json.bool true) :: output.members).map Prod.fst).Nodup := by
  cases output <;> simp [Output.members]

/-- What a run answers is found in the data by its key. -/
theorem get?_dataOf {output : Output} {key : String} {value : Json}
    (h : (key, value) ∈ ("success", Json.bool true) :: output.members) :
    (dataOf (.ok output)).get? key = some value :=
  Json.get?_sortedObject (nodup_members output) h

/-- Sorting the members of an object does not nest them deeper. -/
theorem fits_sortedObject {depth : Nat} {members : List (String × Json)}
    (h : ∀ entry ∈ members, Json.fits depth entry.2 = true) :
    Json.fits (depth + 1) (Json.sortedObject members) = true := by
  refine List.all_eq_true.mpr fun entry hentry => h entry ?_
  exact (List.mergeSort_perm members _).mem_iff.mp hentry

theorem fits_members {output : Output} {depth : Nat}
    (h : ∀ overview, output = .listing overview → overview.total < 1 <<< 64) :
    ∀ entry ∈ output.members, Json.fits (depth + 2) entry.2 = true := by
  cases output with
  | page name markdown => simp [Output.members, Json.fits]
  | listing overview =>
      have htotal := Json.isInfinite_digitsOf (h overview rfl)
      rintro entry (_ | ⟨_, _ | ⟨_, ⟨⟩⟩⟩)
      · simpa [Json.fits, Json.ofNat] using htotal
      · refine fits_sortedObject fun entry hentry => ?_
        obtain ⟨group, -, rfl⟩ := List.mem_map.mp hentry
        simp [Json.fits]

/-- A document is read back from its line. -/
theorem parse_document
    (h : ∀ overview, result = .ok (.listing overview) →
      overview.total < 1 <<< 64) :
    Json.parse ((document coloured result).print ++ "\n")
      = .ok (document coloured result) := by
  rw [document_eq]
  refine Json.parse_print_line (List.all_eq_true.mpr ?_)
  rintro entry (_ | ⟨_, _ | ⟨_, _ | ⟨_, ⟨⟩⟩⟩⟩)
  · cases result with
    | error failure => simp [dataOf, Json.fits]
    | ok output =>
        refine fits_sortedObject (List.forall_mem_cons.mpr ⟨rfl, ?_⟩)
        exact fits_members fun overview houtput =>
          h overview (congrArg _ houtput)
  · cases result with
    | error failure =>
        cases hhint : failure.hint? coloured <;>
          simp [errorOf, Failure.json, Json.fits, hhint, Json.ofText?]
    | ok output => rfl
  · rfl

-- ================================================================= runs

/-- A successful run has read a schema and done its task with its types. -/
theorem run_eq_ok_iff {output : Output} :
    (invocation.run read).2 = .ok output
      ↔ ∃ text types, read = .ok text
        ∧ (loadSchema invocation.schema text).2 = .ok types
        ∧ (invocation.task.run invocation.schema types).2 = .ok output := by
  rw [Invocation.run_snd]
  cases read with
  | error fault => simp [Except.mapError, Except.bind]
  | ok text =>
      cases hload : (loadSchema invocation.schema text).2 with
      | error failure => simp [Except.mapError, Except.bind, hload]
      | ok types => simp [Except.mapError, Except.bind, hload]

/-- The names that are listed are counted in a machine word. -/
theorem total_lt {overview : Overview}
    (hsize : ∀ text, read = .ok text → text.length < 1 <<< 63)
    (h : (invocation.run read).2 = .ok (.listing overview)) :
    overview.total < 1 <<< 64 := by
  obtain ⟨text, types, hread, hload, hrun⟩ := run_eq_ok_iff.mp h
  have htext := hsize text hread
  have htypes := length_loadSchema hload
  cases htask : invocation.task with
  | print name options base =>
      rw [htask] at hrun
      obtain ⟨page, -, houtput⟩ := printed_eq_ok_iff.mp hrun
      cases houtput
  | list withBuiltins =>
      rw [htask] at hrun
      cases hrun
      have htotal := Overview.total_le types withBuiltins
      omega

-- ============================================================== formats

/-- What is reported for a command line, where `read` tells what is found
at the path of the schema. -/
def reported (environment : Environment)
    (read : String → Except ReadFault String) (arguments : List String) :
    Report :=
  match Invocation.parse environment arguments with
  | .ok invocation => invocation.report environment (read invocation.schema)
  | .error usage => usage.report

/-- A run whose log is off reports its result in the wanted format. -/
theorem report_of_quiet (hlevel : invocation.level = none)
    (hlog : environment "GQLDOC_LOG" = none) :
    invocation.report environment read
      = match invocation.format with
        | .plain =>
            plainReport environment.coloursTexts (invocation.run read).2
        | .json =>
            jsonReport environment.coloursTexts (invocation.run read).2 := by
  have hfilter : invocation.filter? environment = none := by
    unfold Invocation.filter?
    rw [hlevel, hlog]
    rfl
  unfold Invocation.report Invocation.log
  rw [hfilter]
  exact congrArg (Report.mk _ _) String.empty_append

/-- A command line that is understood is run. -/
theorem reported_of_parse {read : String → Except ReadFault String}
    {arguments : List String}
    (h : Invocation.parse environment arguments = .ok invocation) :
    reported environment read arguments
      = invocation.report environment (read invocation.schema) := by
  unfold reported
  rw [h]

/-- What the reports of an invocation have in common. The document in the
one of them holds `data` and `error`. -/
structure Agree (invocation : Invocation) (read : Except ReadFault String)
    (data error : Json) (json plain : Report) : Prop where
  /-- Nothing but a line is written, and the line is the document. -/
  line : ∃ line, json.output = line ++ "\n"
    ∧ ∀ c ∈ line.toList, Json.Visible c
  document : Json.parse json.output = .ok (.object [("data", data),
    ("error", error), ("json_version", .string "1")])
  quiet : json.errors = ""
  /-- The document says whether the run was a success, as does the exit
  code. -/
  code : plain.code = json.code
  success : data.get? "success" = some (.bool true) ↔ json.code = 0
  noError : error = .null ↔ json.code = 0
  /-- A page stands in the document as it is. -/
  page : ∀ name options base, invocation.task = .print name options base →
    json.code = 0 → ∃ text types markdown, read = .ok text
      ∧ (loadSchema invocation.schema text).2 = .ok types
      ∧ Page.render types base options name = .ok markdown
      ∧ data.get? "type_name" = some (.string name)
      ∧ data.get? "markdown" = some (.string markdown)
      ∧ plain.output = Text.trimEnd markdown ++ "\n" ∧ plain.errors = ""
  listing : ∀ withBuiltins, invocation.task = .list withBuiltins →
    json.code = 0 → ∃ text types, read = .ok text
      ∧ (loadSchema invocation.schema text).2 = .ok types
      ∧ plain.output = Text.trimEnd ((Output.listing
        (Overview.ofTypes types withBuiltins)).text false) ++ "\n"
      ∧ plain.errors = ""
  /-- A failure has one message, and one hint or none. -/
  failure : json.code ≠ 0 → plain.output = ""
    ∧ ∃ message, error.get? "message" = some (.string message)
      ∧ (error.get? "suggestion" = some .null
          ∧ plain.errors = "error: " ++ message ++ "\n"
        ∨ ∃ hint, error.get? "suggestion" = some (.string hint)
          ∧ plain.errors = "error: " ++ message ++ "\n"
            ++ "        HINT: " ++ hint ++ "\n")

theorem display_of_no_hint {failure : Failure}
    (h : failure.hint? false = none) :
    failure.display false = "error: " ++ failure.message ++ "\n" := by
  unfold Failure.display
  rw [h, String.append_empty]
  rfl

theorem display_of_hint {failure : Failure} {hint : String}
    (h : failure.hint? false = some hint) :
    failure.display false = "error: " ++ failure.message ++ "\n"
      ++ "        HINT: " ++ hint ++ "\n" := by
  unfold Failure.display
  rw [h]
  simp only [String.append_assoc]
  rfl

/-- The exit code is zero exactly when the run succeeds. -/
theorem code_eq_zero_iff :
    (jsonReport coloured result).code = 0 ↔ ∃ output, result = .ok output := by
  cases result <;> simp [jsonReport, Except.isOk, Except.toBool]

/-- The two reports of one run agree if its numbers fit. -/
theorem agree (hsize : ∀ text, read = .ok text → text.length < 1 <<< 63) :
    Agree invocation read (dataOf (invocation.run read).2)
      (errorOf false (invocation.run read).2)
      (jsonReport false (invocation.run read).2)
      (plainReport false (invocation.run read).2) where
  line := ⟨_, rfl, fun c hc => Json.visible_write _ c
    (by rwa [Json.print, String.toList_ofList] at hc)⟩
  document := by
    rw [← document_eq]
    exact parse_document fun overview h => total_lt hsize h
  quiet := rfl
  code := by cases (invocation.run read).2 <;> rfl
  success := by
    rw [code_eq_zero_iff]
    cases (invocation.run read).2 with
    | ok output =>
        exact iff_of_true (get?_dataOf List.mem_cons_self) ⟨output, rfl⟩
    | error failure => simp [dataOf, Json.get?, Json.lookup]
  noError := by
    rw [code_eq_zero_iff]
    cases (invocation.run read).2 <;> simp [errorOf, Failure.json]
  page name options base htask hcode := by
    obtain ⟨output, houtput⟩ := code_eq_zero_iff.mp hcode
    obtain ⟨text, types, hread, hload, hrun⟩ := run_eq_ok_iff.mp houtput
    rw [htask] at hrun
    obtain ⟨markdown, hpage, rfl⟩ := printed_eq_ok_iff.mp hrun
    rw [houtput]
    exact ⟨text, types, markdown, hread, hload, hpage,
      get?_dataOf (by simp [Output.members]),
      get?_dataOf (by simp [Output.members]), rfl, rfl⟩
  listing withBuiltins htask hcode := by
    obtain ⟨output, houtput⟩ := code_eq_zero_iff.mp hcode
    obtain ⟨text, types, hread, hload, hrun⟩ := run_eq_ok_iff.mp houtput
    rw [htask] at hrun
    obtain rfl := Except.ok.inj hrun
    rw [houtput]
    exact ⟨text, types, hread, hload, rfl, rfl⟩
  failure hcode := by
    cases hresult : (invocation.run read).2 with
    | ok output => exact absurd (code_eq_zero_iff.mpr ⟨output, hresult⟩) hcode
    | error failure =>
        refine ⟨rfl, failure.message, rfl, ?_⟩
        cases hhint : failure.hint? false with
        | none =>
            refine .inl ⟨?_, display_of_no_hint hhint⟩
            simp [errorOf, Failure.json, hhint, Json.get?, Json.lookup,
              Json.ofText?]
        | some hint =>
            refine .inr ⟨hint, ?_, display_of_hint hhint⟩
            simp [errorOf, Failure.json, hhint, Json.get?, Json.lookup,
              Json.ofText?]

/-- A schema with a type whose name rings the bell. -/
def bellText : String :=
  "[\x7b\"kind\":\"SCALAR\",\"name\":\"Bell\\u0007\"\x7d]"

/-- A command that prints that type. -/
def bellLine (format : String) : List String :=
  ["--format", format, "print", "Bell\x07", "--schema", "s.json",
    "--no-header"]

/-- The same command, read. -/
def bell (format : OutputFormat) : Invocation where
  task := .print "Bell\x07" { header := false, descriptions := true }
    .standard
  schema := "s.json"
  level := none
  format

/-- Wherever the schema is looked for, it is found. -/
def bellFiles (_ : String) : Except ReadFault String := .ok bellText

/-- An environment without variables. -/
def silent : Environment := fun _ => none

end CommandLine

end SchemaDocs
