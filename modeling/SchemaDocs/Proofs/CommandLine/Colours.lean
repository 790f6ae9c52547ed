/-
Where colours show in a document.

Three variables of the environment turn colours on and off. They are
looked at when a run is reported and nowhere else, so that two runs whose
environments differ in nothing but these variables do the same and have
the same result (`parse_eq_of_alike`).

A result has no colours in a document, and the message of a failure has
none. The hint of a failure has: what it quotes, a command or a piece of a
schema, is in colour there as it is in plain text. So two documents of one
result are the same text unless colours are on for one of them only and
something is quoted (`print_document_eq_iff`), and that is all that the
environment can do to a document (`colours_show_in_quotes`).
-/
import SchemaDocs.Proofs.CommandLine.Clean

namespace SchemaDocs.CommandLine

variable {e e' : Environment} {invocation : Invocation}
  {result : Except Failure Output} {coloured coloured' : Bool}
  {failure : Failure}

-- ========================================================== environments

namespace Environment

/-- The variables that turn colours on and off. -/
def switches : List String := ["NO_COLOR", "GQLDOC_NO_COLOR", "CLICOLOR_FORCE"]

/-- Two environments that differ at most in the switches of colours. -/
def Alike (e e' : Environment) : Prop :=
  ∀ name, name ∉ switches → e name = e' name

end Environment

/-- A command line is read alike, whatever the switches say. -/
theorem parse_eq_of_alike (h : e.Alike e') :
    Invocation.parse e = Invocation.parse e' := by
  have hlevel : levelOf e = levelOf e' := by
    funext given
    unfold levelOf
    rw [h "GQLDOC_LOG_LEVEL" (by decide)]
  have hbase : baseOf e = baseOf e' := by
    funext given
    unfold baseOf
    rw [h "GQLDOC_BASE_URL" (by decide)]
  have hschema : schemaOf e = schemaOf e' := by
    funext given
    unfold schemaOf
    rw [h "GQLDOC_SCHEMA" (by decide)]
  have htask : taskOf e = taskOf e' := by
    funext scope given
    unfold taskOf
    rw [hbase]
  have hcommand : readCommand e = readCommand e' := by
    funext scope arguments
    unfold readCommand
    rw [hlevel, htask, hschema]
  funext arguments
  unfold Invocation.parse
  rw [hcommand, hlevel]

-- ================================================================= hints

/-- Colour makes a text longer. -/
theorem length_paint_lt (style : Style) (text : String) :
    (style.paint false text).length < (style.paint true text).length := by
  show text.length < (style.codes ++ text ++ "\x1b[0m").length
  have hreset : "\x1b[0m".length = 4 := by decide
  simp only [String.length_append]
  omega

/-- What is quoted is longer in colour, and so is the hint. -/
theorem hint?_ne (h : failure.quotes = true) :
    failure.hint? true ≠ failure.hint? false := by
  cases failure with
  | unreadable path fault => cases h
  | sdl error => cases h
  | introspection error =>
      intro heq
      have hlength := congrArg String.length (Option.some.inj heq)
      have hsnippet := length_paint_lt .command
        "\x7b\"data\": \x7b\"__schema\": \x7b\"types\": [...]\x7d\x7d\x7d"
      simp only [String.length_append] at hlength
      omega
  | missing type path closest =>
      intro heq
      have hlength := congrArg String.length (Option.some.inj heq)
      have hlist := length_paint_lt .command
        (Program.name ++ " list --schema " ++ path)
      cases closest with
      | none =>
          simp only [String.length_append] at hlength hlist
          omega
      | some name =>
          have hname := length_paint_lt .command name
          simp only [String.length_append] at hlength hlist
          omega

/-- A hint that quotes nothing is the same in colour. -/
theorem hint?_congr (h : failure.quotes = false) :
    failure.hint? coloured = failure.hint? coloured' := by
  cases failure with
  | unreadable path fault => rfl
  | sdl error => rfl
  | introspection error => cases h
  | missing type path closest => cases h

-- ============================================================= documents

theorem ofText?_inj {a b : Option String} :
    Json.ofText? a = Json.ofText? b ↔ a = b := by
  cases a <;> cases b <;> simp [Json.ofText?]

/-- The documents of a failure differ as its hints do. -/
theorem document_error_eq_iff :
    document coloured (.error failure) = document coloured' (.error failure)
      ↔ failure.hint? coloured = failure.hint? coloured' := by
  simp [document, Failure.json, ofText?_inj]

/-- The text of a document is one way to write it. -/
theorem print_document_inj
    (h : (document coloured (.error failure)).print
      = (document coloured' (.error failure)).print) :
    document coloured (.error failure)
      = document coloured' (.error failure) := by
  have hread (c : Bool) :
      Json.parse ((document c (.error failure)).print ++ "\n")
        = .ok (document c (.error failure)) :=
    parse_document fun _ hlisting => nomatch hlisting
  have hcoloured := hread coloured
  rw [h, hread coloured'] at hcoloured
  exact (Except.ok.inj hcoloured).symm

/-- Two documents of one result are the same text unless they differ in
colour and something is quoted. -/
theorem print_document_eq_iff :
    (document coloured result).print = (document coloured' result).print
      ↔ coloured = coloured' ∨ quotes result = false := by
  cases result with
  | ok output => exact iff_of_true rfl (.inr rfl)
  | error failure =>
      constructor
      · intro hprint
        have hhint := document_error_eq_iff.mp (print_document_inj hprint)
        by_contra hne
        obtain ⟨hcolour, hquotes⟩ := not_or.mp hne
        have hquotes : failure.quotes = true := by simpa [quotes] using hquotes
        cases coloured <;> cases coloured'
        · exact hcolour rfl
        · exact hint?_ne hquotes hhint.symm
        · exact hint?_ne hquotes hhint
        · exact hcolour rfl
      · rintro (rfl | hquotes)
        · rfl
        · exact congrArg Json.print
            (document_error_eq_iff.mpr (hint?_congr hquotes))

-- ================================================================ reports

/-- In JSON, colour matters to nothing but the document. -/
theorem report_of_json {read : Except ReadFault String}
    (hformat : invocation.format = .json) :
    (invocation.report e read).code
        = (jsonReport false (invocation.run read).2).code
      ∧ (invocation.report e read).output
        = (document e.coloursTexts (invocation.run read).2).print ++ "\n" := by
  unfold Invocation.report
  rw [hformat]
  exact ⟨rfl, rfl⟩

/-- Two environments that differ at most in the switches of colours do the
same for a command that wants JSON. What is written is the same as well
unless colours are on for one of them only and the hint of a failure
quotes something; and it holds no escape sequence that was not given
unless they are on and something is quoted. -/
theorem colours_show_in_quotes (halike : e.Alike e')
    {arguments : List String}
    (hparse : Invocation.parse e arguments = .ok invocation)
    (hformat : invocation.format = .json)
    (read : String → Except ReadFault String) :
    Invocation.parse e' arguments = .ok invocation
      ∧ (reported e read arguments).code = (reported e' read arguments).code
      ∧ ((reported e read arguments).output
          = (reported e' read arguments).output
        ↔ e.coloursTexts = e'.coloursTexts
          ∨ quotes (invocation.run (read invocation.schema)).2 = false)
      ∧ ∃ written : Json,
        (reported e read arguments).output = written.print ++ "\n"
        ∧ (GivenClean invocation (read invocation.schema) →
          (AllTexts Clean written ↔ e.coloursTexts = false
            ∨ quotes (invocation.run (read invocation.schema)).2
              = false)) := by
  have hparse' : Invocation.parse e' arguments = .ok invocation := by
    rw [← parse_eq_of_alike halike, hparse]
  obtain ⟨hcode, houtput⟩ := report_of_json hformat
  obtain ⟨hcode', houtput'⟩ := report_of_json hformat
  rw [reported_of_parse hparse, reported_of_parse hparse']
  refine ⟨hparse', hcode.trans hcode'.symm, ?_, _, houtput, ?_⟩
  · rw [houtput, houtput', String.append_left_inj]
    exact print_document_eq_iff
  · exact fun hgiven => allTexts_document_iff hgiven

/-- An environment that wants colours. -/
def colourful : Environment := fun name =>
  if name = "CLICOLOR_FORCE" then some "1" else none

/-- A schema with one type. -/
def userText : String :=
  "[\x7b\"kind\":\"OBJECT\",\"name\":\"User\",\"fields\":[]\x7d]"

def userFiles (_ : String) : Except ReadFault String := .ok userText

/-- A command that misspells the name of the type. -/
def usrLine : List String :=
  ["print", "Usr", "--schema", "s.json", "--format", "json"]

/-- The same command, read. -/
def usr : Invocation where
  task := .print "Usr" {} .standard
  schema := "s.json"
  level := none
  format := .json

theorem load_userText : (loadSchema "s.json" userText).2
    = .ok [⟨"User", none, .object []⟩] := by decide +kernel

theorem quotes_usr : quotes (usr.run (userFiles usr.schema)).2 = true := by
  have hrun : (usr.run (userFiles usr.schema)).2
      = printed [⟨"User", none, .object []⟩] "s.json" "Usr" {} .standard := by
    rw [Invocation.run_snd]
    show (loadSchema "s.json" userText).2.bind _ = _
    rw [load_userText]
    rfl
  have habsent : "Usr" ∉ [(⟨"User", none, .object []⟩ : TypeDef)].map
      TypeDef.name := by decide
  rw [hrun, printed_eq_error_iff.mpr ⟨habsent, rfl⟩]
  rfl

/-- Nothing that the command is given holds an escape. -/
theorem givenClean_usr : GivenClean usr (userFiles usr.schema) where
  path := by decide
  print htask := by
    cases htask
    exact ⟨by decide, by decide⟩
  refusal h := nomatch h
  types hread hload := by
    cases hread
    obtain rfl := Except.ok.inj (load_userText.symm.trans hload)
    intro type htype
    obtain rfl := List.mem_singleton.mp htype
    exact ⟨by decide, nofun, nofun, nofun, nofun⟩
  messages hread hload := by
    cases hread
    cases load_userText.symm.trans hload

theorem alike_colourful : colourful.Alike silent := by
  intro name hname
  have hforce : name ≠ "CLICOLOR_FORCE" := by
    rintro rfl
    exact hname (by decide)
  exact if_neg hforce

/-- Nothing that is given has an escape sequence in it. Still the command
that the hint quotes is in colour for one of two users, and only for one. -/
theorem colours_show_in_quotes_usr :
    colourful.Alike silent
      ∧ Invocation.parse colourful usrLine = .ok usr
      ∧ GivenClean usr (userFiles usr.schema)
      ∧ (reported colourful userFiles usrLine).output
        ≠ (reported silent userFiles usrLine).output
      ∧ ∃ written : Json,
        (reported colourful userFiles usrLine).output = written.print ++ "\n"
        ∧ ¬ AllTexts Clean written := by
  have hparse : Invocation.parse colourful usrLine = .ok usr := rfl
  have hshows : ¬ (colourful.coloursTexts = false
      ∨ quotes (usr.run (userFiles usr.schema)).2 = false) :=
    not_or.mpr ⟨by decide, by rw [quotes_usr]; decide⟩
  obtain ⟨-, -, houtput, document, hdocument, hclean⟩ :=
    colours_show_in_quotes alike_colourful hparse rfl userFiles
  refine ⟨alike_colourful, hparse, givenClean_usr, ?_, document, hdocument,
    (hclean givenClean_usr).not.mpr hshows⟩
  exact houtput.not.mpr hshows

end SchemaDocs.CommandLine
