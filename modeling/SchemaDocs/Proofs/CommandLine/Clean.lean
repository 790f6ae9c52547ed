/-
A document has no escape sequences of its own.

Whatever a run writes into a JSON document was given to it: on the command
line, by the system that could not read the schema, or by the schema. If
all of this is clean, so is the document, unless colours are on and a hint
quotes something in colour (`allTexts_document_iff`).
-/
import SchemaDocs.Proofs.CommandLine.Formats
import SchemaDocs.Proofs.Page.Clean

namespace SchemaDocs.CommandLine

variable {invocation : Invocation} {read : Except ReadFault String}
  {coloured : Bool} {failure : Failure}

-- ================================================================ inputs

/-- What a run is given is clean: what stands on the command line, what
the system says of a schema that it does not read, and what the schema
says. -/
structure GivenClean (invocation : Invocation)
    (read : Except ReadFault String) : Prop where
  path : Clean invocation.schema
  print : ∀ {name options base},
    invocation.task = .print name options base → Clean name ∧ Clean base.text
  refusal : ∀ {reason number},
    read = .error (.refused reason number) → Clean reason
  types : ∀ {text types}, read = .ok text →
    (loadSchema invocation.schema text).2 = .ok types →
      ∀ type ∈ types, type.Clean
  messages : ∀ {text messages}, read = .ok text →
    (loadSchema invocation.schema text).2
        = .error (.introspection (.queryFailed messages)) →
      ∀ message ∈ messages, Clean message

/-- A failed run has read no schema, has made no sense of it, or has not
found the type. -/
theorem run_eq_error (h : (invocation.run read).2 = .error failure) :
    (∃ fault, read = .error fault
        ∧ failure = .unreadable invocation.schema fault)
      ∨ (∃ text, read = .ok text
        ∧ (loadSchema invocation.schema text).2 = .error failure)
      ∨ ∃ text types name options base, read = .ok text
        ∧ (loadSchema invocation.schema text).2 = .ok types
        ∧ invocation.task = .print name options base
        ∧ failure = .missing ⟨name⟩ invocation.schema
          (Similarity.closest name types) := by
  rw [Invocation.run_snd] at h
  cases read with
  | error fault => exact .inl ⟨fault, rfl, (Except.error.inj h).symm⟩
  | ok text =>
      change (loadSchema invocation.schema text).2.bind _ = _ at h
      cases hload : (loadSchema invocation.schema text).2 with
      | error fault =>
          rw [hload] at h
          cases h
          exact .inr (.inl ⟨text, rfl, hload⟩)
      | ok types =>
          rw [hload] at h
          refine .inr (.inr ?_)
          cases htask : invocation.task with
          | print name options base =>
              rw [htask] at h
              exact ⟨text, types, name, options, base, rfl, hload, rfl,
                (printed_eq_error_iff.mp h).2⟩
          | list withBuiltins =>
              rw [htask] at h
              cases h

/-- A schema that makes no sense fails as what it is read as. -/
theorem loadSchema_eq_error {path text : String}
    (h : (loadSchema path text).2 = .error failure) :
    (∃ error, failure = .introspection error)
      ∨ ∃ error, failure = .sdl error := by
  rw [loadSchema_snd] at h
  split at h
  · cases hload : Introspection.load text with
    | ok found => rw [hload] at h; cases h
    | error error =>
        rw [hload] at h
        exact .inl ⟨error, (Except.error.inj h).symm⟩
  · cases hload : Sdl.load text with
    | ok found => rw [hload] at h; cases h
    | error error =>
        rw [hload] at h
        exact .inr ⟨error, (Except.error.inj h).symm⟩

-- ================================================================= texts

theorem clean_toString (n : Nat) : Clean (toString n) := by
  intro hmem
  have hdigit : '\x1b'.isDigit = true :=
    Json.isDigit_of_mem_digits (by simpa using hmem)
  cases hdigit

/-- A fault in reading is clean if the system words it cleanly. -/
theorem clean_readFault {fault : ReadFault}
    (h : ∀ {reason number}, fault = .refused reason number → Clean reason) :
    Clean fault.message := by
  cases fault with
  | refused reason number =>
      simp only [ReadFault.message, clean_append]
      exact ⟨⟨⟨h rfl, by decide⟩, clean_toString number⟩, by decide⟩
  | notAPath => decide
  | notText => decide

/-- A fault in a document is clean if the messages in it are. -/
theorem clean_introspectionError {error : Introspection.Error}
    (h : ∀ {messages}, error = .queryFailed messages →
      ∀ message ∈ messages, Clean message) :
    Clean error.message := by
  cases error with
  | json fault => cases fault <;> decide +kernel
  | notAList found =>
      have hnoun : Clean found.noun := by cases found <;> decide
      exact clean_append.mpr ⟨by decide +kernel, hnoun⟩
  | queryFailed messages =>
      refine clean_append.mpr ⟨by decide +kernel, ?_⟩
      split
      · decide
      · exact clean_intercalate (by decide) (h rfl)

/-- A failure says nothing but what it was given. -/
theorem clean_message (hgiven : GivenClean invocation read)
    (h : (invocation.run read).2 = .error failure) :
    Clean failure.message := by
  rcases run_eq_error h with ⟨fault, rfl, rfl⟩ | ⟨text, rfl, hload⟩
    | ⟨text, types, name, options, base, rfl, hload, htask, rfl⟩
  · have hfault : Clean fault.message := clean_readFault fun hrefused =>
      hgiven.refusal (congrArg _ hrefused)
    unfold Failure.message
    rw [clean_append]
    refine ⟨?_, hfault⟩
    split
    · decide
    · simp only [clean_append]
      exact ⟨⟨by decide, hgiven.path⟩, by decide⟩
  · rcases loadSchema_eq_error hload with ⟨error, rfl⟩ | ⟨error, rfl⟩
    · exact clean_introspectionError fun hfailed =>
        hgiven.messages rfl (hfailed ▸ hload)
    · cases error
      decide
  · show Clean ("Type not found: " ++ name)
    rw [clean_append]
    exact ⟨by decide, (hgiven.print htask).1⟩

-- ================================================================= hints

/-- Whether the hint of a failure quotes a command or a piece of a
schema. -/
def Failure.quotes : Failure → Bool
  | .introspection _ | .missing .. => true
  | .unreadable .. | .sdl _ => false

/-- Whether the hint of a failed run quotes something. -/
def quotes : Except Failure Output → Bool
  | .ok _ => false
  | .error failure => failure.quotes

/-- What is quoted is clean unless it is coloured. -/
theorem clean_paint_iff {style : Style} {text : String} (h : Clean text) :
    Clean (style.paint coloured text) ↔ coloured = false := by
  cases coloured with
  | false => exact iff_of_true h rfl
  | true =>
      refine iff_of_false (fun hpaint => ?_) (by decide)
      change Clean (style.codes ++ text ++ "\x1b[0m") at hpaint
      exact absurd (clean_append.mp hpaint).2 (by decide)

/-- The name that is suggested is one of the list. -/
theorem clean_closest {name closest : String} {types : List TypeDef}
    (htypes : ∀ type ∈ types, type.Clean)
    (h : Similarity.closest name types = some closest) : Clean closest := by
  obtain ⟨type, htype, -, rfl⟩ := Similarity.exists_of_closestBy h
  exact (htypes type htype).name

/-- A hint is clean unless it quotes something in colour. -/
theorem clean_hint_iff (hgiven : GivenClean invocation read)
    (h : (invocation.run read).2 = .error failure) :
    (∀ hint ∈ failure.hint? coloured, Clean hint)
      ↔ coloured = false ∨ failure.quotes = false := by
  have hhint {hint : String} : failure.hint? coloured = some hint →
      (Clean hint ↔ coloured = false) → failure.quotes = true →
      ((∀ hint ∈ failure.hint? coloured, Clean hint)
        ↔ coloured = false ∨ failure.quotes = false) := by
    intro hsome hclean hquotes
    rw [hsome, hquotes]
    simpa using hclean
  rcases run_eq_error h with ⟨fault, rfl, rfl⟩ | ⟨text, rfl, hload⟩
    | ⟨text, types, name, options, base, rfl, hload, htask, rfl⟩
  · exact iff_of_true (fun hint hhint => nomatch hhint) (.inr rfl)
  · rcases loadSchema_eq_error hload with ⟨error, rfl⟩ | ⟨error, rfl⟩
    · refine hhint rfl ?_ rfl
      have hsnippet : Clean
        "\x7b\"data\": \x7b\"__schema\": \x7b\"types\": [...]\x7d\x7d\x7d" :=
        by decide
      rw [clean_append, clean_append, clean_paint_iff hsnippet]
      exact ⟨fun h => h.1.2, fun h => ⟨⟨by decide, h⟩, by decide⟩⟩
    · refine iff_of_true (fun hint hhint => ?_) (.inr rfl)
      cases hhint
      decide
  · have hlist : Clean (Program.name ++ " list --schema "
        ++ invocation.schema) := by
      simp only [clean_append]
      exact ⟨⟨by decide, by decide⟩, hgiven.path⟩
    refine hhint rfl ?_ rfl
    cases hclosest : Similarity.closest name types with
    | none =>
        simp only [clean_append, clean_paint_iff hlist]
        exact ⟨fun h => h.1.2, fun h => ⟨⟨by decide, h⟩, by decide⟩⟩
    | some closest =>
        have hname := clean_closest (hgiven.types rfl hload) hclosest
        simp only [clean_append, clean_paint_iff hlist, clean_paint_iff hname]
        exact ⟨fun h => h.1.2, fun h =>
          ⟨⟨⟨⟨by decide, h⟩, by decide⟩, h⟩, by decide⟩⟩

-- ======================================================== all the texts

/-- All texts in a value are as `P` says, keys included. -/
inductive AllTexts (P : String → Prop) : Json → Prop
  | null : AllTexts P .null
  | bool (value : Bool) : AllTexts P (.bool value)
  | number (mantissa exponent : Int) : AllTexts P (.number mantissa exponent)
  | string {text : String} (h : P text) : AllTexts P (.string text)
  | array {items : List Json} (h : ∀ item ∈ items, AllTexts P item) :
      AllTexts P (.array items)
  | object {members : List (String × Json)}
      (hkeys : ∀ entry ∈ members, P entry.1)
      (hvalues : ∀ entry ∈ members, AllTexts P entry.2) :
      AllTexts P (.object members)

theorem allTexts_object_iff {P : String → Prop}
    {members : List (String × Json)} :
    AllTexts P (.object members)
      ↔ ∀ entry ∈ members, P entry.1 ∧ AllTexts P entry.2 := by
  constructor
  · rintro (_ | _ | _ | _ | _ | ⟨hkeys, hvalues⟩) entry hentry
    exact ⟨hkeys entry hentry, hvalues entry hentry⟩
  · intro h
    exact .object (fun entry hentry => (h entry hentry).1)
      fun entry hentry => (h entry hentry).2

theorem allTexts_sortedObject {P : String → Prop}
    {members : List (String × Json)}
    (h : ∀ entry ∈ members, P entry.1 ∧ AllTexts P entry.2) :
    AllTexts P (Json.sortedObject members) :=
  allTexts_object_iff.mpr fun entry hentry =>
    h entry ((List.mergeSort_perm members _).mem_iff.mp hentry)

theorem allTexts_ofText?_iff {P : String → Prop} {text : Option String} :
    AllTexts P (Json.ofText? text) ↔ ∀ t ∈ text, P t := by
  cases text with
  | none => exact iff_of_true .null (by simp)
  | some text =>
      constructor
      · rintro (_ | _ | _ | h) t ⟨⟩
        exact h
      · exact fun h => .string (h text rfl)

/-- The names of an overview are names of types. -/
theorem clean_names {types : List TypeDef} (h : ∀ type ∈ types, type.Clean)
    {withBuiltins : Bool} {kind : Kind} {name : String}
    (hname : name ∈ (Overview.ofTypes types withBuiltins).names kind) :
    Clean name := by
  obtain ⟨type, htype, rfl⟩ := List.mem_map.mp
    ((Overview.names_perm types withBuiltins kind).mem_iff.mp hname)
  have hfirst := (List.mem_filter.mp htype).1
  exact (h type (List.mem_filter.mp hfirst).1).name

/-- An answer holds clean texts only, when the run is given no others. -/
theorem allTexts_members {output : Output}
    (hgiven : GivenClean invocation read)
    (h : (invocation.run read).2 = .ok output) :
    ∀ entry ∈ output.members, Clean entry.1 ∧ AllTexts Clean entry.2 := by
  obtain ⟨text, types, rfl, hload, hrun⟩ := run_eq_ok_iff.mp h
  have htypes := hgiven.types rfl hload
  cases htask : invocation.task with
  | print name options base =>
      rw [htask] at hrun
      obtain ⟨page, hpage, rfl⟩ := printed_eq_ok_iff.mp hrun
      obtain ⟨hname, hbase⟩ := hgiven.print htask
      have hclean := Page.clean_of_render hbase htypes hpage
      have hmarkdown : Clean "markdown" := by decide
      have htypeName : Clean "type_name" := by decide
      rintro entry (_ | ⟨_, _ | ⟨_, ⟨⟩⟩⟩)
      · exact ⟨hmarkdown, .string hclean⟩
      · exact ⟨htypeName, .string hname⟩
  | list withBuiltins =>
      rw [htask] at hrun
      obtain rfl := Except.ok.inj hrun
      have htotal : Clean "total" := by decide
      have htypesKey : Clean "types" := by decide
      rintro entry (_ | ⟨_, _ | ⟨_, ⟨⟩⟩⟩)
      · exact ⟨htotal, .number _ _⟩
      · refine ⟨htypesKey, allTexts_sortedObject fun entry hentry => ?_⟩
        obtain ⟨group, hgroup, rfl⟩ := List.mem_map.mp hentry
        obtain ⟨kind, -, rfl⟩ :=
          List.mem_map.mp (List.mem_filter.mp hgroup).1
        have hlabel : Clean kind.label := by cases kind <;> decide
        exact ⟨hlabel, .array (List.forall_mem_map.mpr fun name hname =>
          .string (clean_names htypes hname))⟩

/-- What a run is given is all that its document holds, but for the colours
of what is quoted. -/
theorem allTexts_document_iff (hgiven : GivenClean invocation read) :
    AllTexts Clean (document coloured (invocation.run read).2)
      ↔ coloured = false ∨ quotes (invocation.run read).2 = false := by
  have hdata : Clean "data" := by decide
  have herror : Clean "error" := by decide
  have hversion : Clean "json_version" := by decide
  have hone : Clean "1" := by decide
  have hsuccess : Clean "success" := by decide
  have hdocument : AllTexts Clean (document coloured (invocation.run read).2)
      ↔ AllTexts Clean (dataOf (invocation.run read).2)
        ∧ AllTexts Clean (errorOf coloured (invocation.run read).2) := by
    rw [document_eq, allTexts_object_iff]
    simp [hdata, herror, hversion, AllTexts.string hone]
  rw [hdocument]
  cases hresult : (invocation.run read).2 with
  | ok output =>
      refine iff_of_true ⟨allTexts_sortedObject ?_, .null⟩ (.inr rfl)
      exact List.forall_mem_cons.mpr
        ⟨⟨hsuccess, .bool true⟩, allTexts_members hgiven hresult⟩
  | error failure =>
      have hmessageKey : Clean "message" := by decide
      have hsuggestionKey : Clean "suggestion" := by decide
      have hmessage := clean_message hgiven hresult
      have hfailed : AllTexts Clean (dataOf (.error failure)) := by
        rw [dataOf, allTexts_object_iff]
        simpa [hsuccess] using AllTexts.bool false
      rw [errorOf, Failure.json, allTexts_object_iff, quotes,
        ← clean_hint_iff hgiven hresult, ← allTexts_ofText?_iff]
      simp [hfailed, hmessageKey, hsuggestionKey, AllTexts.string hmessage]

end SchemaDocs.CommandLine
