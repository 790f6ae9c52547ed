/-
Written JSON is read back.

A value that is nested at most 127 deep, and whose numbers are in range,
is what the reader makes of its own text (`parse_print`). Deeper values
have texts too, but the reader refuses these.

# How the proof goes

The reader works from the front and answers what is left, so everything
is said with arbitrary text behind the value. Only a number cares for
that text, since it must not go on as part of the number; what can stand
behind a value is nothing, a comma or a closing bracket (`Ends`). The
induction is on the depth, as in the reader. The lists inside arrays and
objects are read by two loops, each with a bound of its own, a character
for each item; what the two have in common is one more induction, on the
list (`loop_separated`).
-/
import SchemaDocs.Proofs.Json.Number

namespace SchemaDocs.Json

variable {rest : List Char}

-- ============================================================= strings

/-- The four digits of a control character read as its code. -/
theorem hexValue?_control : ∀ n < 0x20,
    Text.hexValue? ['0', '0', Text.hexLower (n / 16), Text.hexLower (n % 16)]
        = some n
      ∧ Text.isHighSurrogate n = false
      ∧ Text.scalar? n = some (Char.ofNat n) := by
  decide

/-- A control character is read back from its escape. -/
theorem unicodeEscape_control {c : Char} (h : c.toNat < 0x20)
    (rest : List Char) :
    unicodeEscape ('0' :: '0' :: Text.hexLower (c.toNat / 16)
        :: Text.hexLower (c.toNat % 16) :: rest)
      = .ok (c, rest) := by
  obtain ⟨hvalue, hhigh, hscalar⟩ := hexValue?_control c.toNat h
  rw [Char.ofNat_toNat] at hscalar
  simp [unicodeEscape, hexCode, hvalue, hhigh, hscalar]

/-- A string goes on behind an escape. -/
theorem stringRest_unicode {seen rest after : List Char} {c : Char}
    (h : unicodeEscape rest = .ok (c, after)) :
    stringRest seen ('\\' :: 'u' :: rest) = stringRest (c :: seen) after := by
  rw [stringRest]
  split
  · next hfault =>
      rw [hfault] at h
      cases h
  · next hread =>
      rw [hread] at h
      cases h
      rfl

/-- A character in a string is read back. -/
theorem stringRest_escape (c : Char) (seen rest : List Char) :
    stringRest seen (escape c ++ rest) = stringRest (c :: seen) rest := by
  by_cases hquote : c = '"'
  · subst hquote
    simp [escape, stringRest, Text.escaped?]
  by_cases hslash : c = '\\'
  · subst hslash
    simp [escape, stringRest, Text.escaped?]
  by_cases hletter : c ∈ ['\x08', '\x0c', '\n', '\r', '\t']
  · simp only [List.mem_cons, List.not_mem_nil, or_false] at hletter
    rcases hletter with rfl | rfl | rfl | rfl | rfl <;>
      simp [escape, stringRest, Text.escaped?]
  simp only [List.mem_cons, List.not_mem_nil, or_false, not_or] at hletter
  obtain ⟨hb, hf, hn, hr, ht⟩ := hletter
  by_cases hcontrol : c.toNat < 0x20
  · have hescape : escape c = ['\\', 'u', '0', '0',
        Text.hexLower (c.toNat / 16), Text.hexLower (c.toNat % 16)] := by
      simp [escape, *]
    rw [hescape]
    exact stringRest_unicode (unicodeEscape_control hcontrol rest)
  · simp [escape, stringRest, *]

/-- An escaped text is read back up to the quote that ends it. -/
theorem stringRest_flatMap (text seen rest : List Char) :
    stringRest seen (text.flatMap escape ++ '"' :: rest)
      = .ok (String.ofList (seen.reverse ++ text), rest) := by
  induction text generalizing seen with
  | nil => simp [stringRest]
  | cons c text ih =>
      rw [List.flatMap_cons, List.append_assoc, stringRest_escape, ih,
        List.reverse_cons, List.append_assoc]
      rfl

/-- A text is read back from behind its opening quote. -/
theorem stringRest_quote (text : String) (rest : List Char) :
    stringRest [] (text.toList.flatMap escape ++ '"' :: rest)
      = .ok (text, rest) := by
  rw [stringRest_flatMap, List.reverse_nil, List.nil_append,
    String.ofList_toList]

-- =============================================================== lists

/-- Pieces with commas between them, up to the sign that closes them. -/
def separated (closing : Char) : List (List Char) → List Char
  | [] => [closing]
  | [piece] => piece ++ [closing]
  | piece :: second :: pieces =>
      piece ++ ',' :: separated closing (second :: pieces)

/-- Items are written with commas between them and a bracket behind. -/
theorem writeItems_eq (items : List Json) :
    writeItems items = separated ']' (items.map write) := by
  induction items with
  | nil => rfl
  | cons item items ih =>
      cases items with
      | nil => rw [writeItems, List.map_singleton, separated]
      | cons second items =>
          rw [writeItems, ih]
          · rfl
          · intro h
            cases h

/-- A member as it is written: a key, a colon and a value. -/
def writeMember (entry : String × Json) : List Char :=
  quote entry.1 ++ ':' :: write entry.2

theorem writeMembers_eq (members : List (String × Json)) :
    writeMembers members = separated '\x7d' (members.map writeMember) := by
  induction members with
  | nil => rfl
  | cons entry members ih =>
      cases members with
      | nil =>
          rw [writeMembers, List.map_singleton, separated, writeMember,
            List.append_assoc, List.cons_append]
      | cons second members =>
          rw [writeMembers, ih]
          · show _ = writeMember entry ++ _
            rw [writeMember, List.append_assoc]
            rfl
          · intro h
            cases h

/-- A list starts like its first piece. -/
theorem separated_cons (closing : Char) {piece more : List Char} {c : Char}
    (h : piece = c :: more) (pieces : List (List Char)) :
    ∃ after, separated closing (piece :: pieces) = c :: after := by
  subst h
  cases pieces with
  | nil => exact ⟨_, rfl⟩
  | cons second pieces => exact ⟨_, rfl⟩

/-- There are no more pieces than characters. -/
theorem length_le_separated (closing : Char) (pieces : List (List Char)) :
    pieces.length ≤ (separated closing pieces).length := by
  induction pieces with
  | nil => exact Nat.zero_le _
  | cons piece pieces ih =>
      cases pieces with
      | nil =>
          rw [separated, List.length_append]
          exact Nat.le_add_left 1 _
      | cons second pieces =>
          rw [separated]
          simp only [List.length_append, List.length_cons] at ih ⊢
          omega

/-- A loop that ends at the closing sign and goes on behind a comma reads
a list back. -/
theorem loop_separated {α : Type} {closing : Char} {P : α → Prop}
    {piece : α → List Char}
    {loop : List Char → List α → List Char → Except Fault (List α × List Char)}
    (last : ∀ {b bound seen a rest}, P a →
      loop (b :: bound) seen (piece a ++ closing :: rest)
        = .ok ((a :: seen).reverse, rest))
    (next : ∀ {b bound seen a second as rest}, P a →
      loop (b :: bound) seen (piece a ++
          ',' :: (separated closing ((second :: as).map piece) ++ rest))
        = loop bound (a :: seen)
            (separated closing ((second :: as).map piece) ++ rest))
    {as : List α} (has : ∀ a ∈ as, P a) (hne : as ≠ [])
    {bound : List Char} (hbound : as.length ≤ bound.length)
    (seen : List α) (rest : List Char) :
    loop bound seen (separated closing (as.map piece) ++ rest)
      = .ok (seen.reverse ++ as, rest) := by
  induction as generalizing bound seen with
  | nil => exact absurd rfl hne
  | cons a as ih =>
      have ha := has a List.mem_cons_self
      cases bound with
      | nil => cases hbound
      | cons b bound =>
          cases as with
          | nil =>
              rw [List.map_singleton, separated, List.append_assoc]
              show loop _ _ (piece a ++ closing :: rest) = _
              rw [last ha, List.reverse_cons]
          | cons second as =>
              have hmore := ih (fun x hx => has x (List.mem_cons_of_mem _ hx))
                (List.cons_ne_nil _ _) (Nat.le_of_succ_le_succ hbound)
                (a :: seen)
              rw [List.map_cons, List.map_cons, separated, ← List.map_cons,
                List.append_assoc]
              refine (next ha).trans (hmore.trans ?_)
              rw [List.reverse_cons, List.append_assoc]
              rfl

-- ============================================================== values

/-- The reader has the value back, whatever it ends at. -/
def Returns (item : Reader Json) (json : Json) : Prop :=
  ∀ more, Ends more → item (write json ++ more) = .ok (json, more)

theorem ends_cons {c : Char} (h : c = ',' ∨ c = ']' ∨ c = '\x7d')
    (more : List Char) : Ends (c :: more) := by
  intro d hd
  cases hd
  exact h

/-- Whether a value can start with the character, so that it is neither
blank nor the end of a list. -/
def Starts (c : Char) : Prop :=
  c ≠ ']' ∧ ∀ more, skipSpace (c :: more) = c :: more

theorem starts_of_isDigit {c : Char} (h : c.isDigit = true) : Starts c := by
  refine ⟨?_, fun more => if_neg ?_⟩
  · rintro rfl
    cases h
  · rintro (rfl | rfl | rfl | rfl) <;> cases h

/-- The first character of a written value. -/
theorem write_cons (json : Json) :
    ∃ c more, write json = c :: more ∧ Starts c := by
  cases json with
  | null => exact ⟨'n', _, rfl, by decide, fun _ => rfl⟩
  | bool value =>
      cases value with
      | false => exact ⟨'f', _, rfl, by decide, fun _ => rfl⟩
      | true => exact ⟨'t', _, rfl, by decide, fun _ => rfl⟩
  | number mantissa exponent =>
      rw [write_number]
      unfold writeInt
      split
      · exact ⟨'-', _, rfl, by decide, fun _ => rfl⟩
      · obtain ⟨c, cs, hcs, hc⟩ := toDigits_cons mantissa.natAbs
        rw [hcs]
        exact ⟨c, _, rfl, starts_of_isDigit hc⟩
  | string text => exact ⟨'"', _, rfl, by decide, fun _ => rfl⟩
  | array items => exact ⟨'[', _, rfl, by decide, fun _ => rfl⟩
  | object members => exact ⟨'\x7b', _, rfl, by decide, fun _ => rfl⟩

variable {item : Reader Json} {json : Json} {b c : Char}
  {bound more : List Char} {depth : Nat}

/-- A value that starts with a digit is a number. -/
theorem value_digit (hc : c.isDigit = true) (cs : List Char) :
    value (depth + 1) (c :: cs) = unsigned false (c :: cs) := by
  have hspace := (starts_of_isDigit hc).2 cs
  have hdigit := digit?_of_isDigit hc
  have hne : ∀ d : Char, d.isDigit = false → c ≠ d := by
    rintro d hd rfl
    rw [hc] at hd
    cases hd
  simp [value, hspace, hdigit, hne 'n' rfl, hne 't' rfl, hne 'f' rfl,
    hne '"' rfl, hne '-' rfl, hne '[' rfl, hne '\x7b' rfl]

/-- A number in range is read back. -/
theorem returns_number {mantissa exponent : Int}
    (h : isInfinite (digitsOf mantissa.natAbs) [] exponent = false) :
    Returns (value (depth + 1)) (number mantissa exponent) := by
  intro more hmore
  rw [write_number, List.append_assoc]
  unfold writeInt
  split
  · next hneg =>
      show unsigned true (Nat.toDigits 10 mantissa.natAbs
        ++ (exponentText exponent ++ more)) = _
      rw [unsigned_write true _ h hmore]
      congr
      show -(mantissa.natAbs : Int) = mantissa
      omega
  · next hpos =>
      have hread := unsigned_write false _ h hmore
      obtain ⟨c, cs, hcs, hc⟩ := toDigits_cons mantissa.natAbs
      rw [hcs, List.cons_append] at hread ⊢
      rw [value_digit hc, hread]
      congr
      show (mantissa.natAbs : Int) = mantissa
      omega

/-- A string is read back. -/
theorem returns_string (text : String) :
    Returns (value (depth + 1)) (string text) := by
  intro more _
  have htext : write (string text) ++ more
      = '"' :: (text.toList.flatMap escape ++ '"' :: more) := by
    show '"' :: ((text.toList.flatMap escape ++ ['"']) ++ more) = _
    rw [List.append_assoc]
    rfl
  rw [htext]
  show (stringRest [] _).map _ = _
  rw [stringRest_quote]
  rfl

-- ============================================================== arrays

/-- The last item of an array is followed by the bracket. -/
theorem arrayRest_last {seen : List Json} (h : Returns item json) :
    arrayRest item (b :: bound) seen (write json ++ ']' :: rest)
      = .ok ((json :: seen).reverse, rest) := by
  rw [arrayRest, h _ (ends_cons (by simp) rest)]
  rfl

/-- Any other item is followed by a comma and the next one. -/
theorem arrayRest_next {seen : List Json} {second : Json}
    {items : List Json} (h : Returns item json) :
    arrayRest item (b :: bound) seen (write json
        ++ ',' :: (separated ']' ((second :: items).map write) ++ rest))
      = arrayRest item bound (json :: seen)
          (separated ']' ((second :: items).map write) ++ rest) := by
  obtain ⟨c, cs, hwrite, hbracket, hspace⟩ := write_cons second
  obtain ⟨after, hlist⟩ := separated_cons ']' hwrite (items.map write)
  rw [List.map_cons, hlist, arrayRest, h _ (ends_cons (by simp) _)]
  have hcomma (more : List Char) : skipSpace (',' :: more) = ',' :: more := rfl
  simp only [hcomma, List.cons_append, hspace]
  simp [hbracket]

/-- Behind its bracket an array that is not empty is read by the loop. -/
theorem value_bracket (hc : Starts c) (cs : List Char) :
    value (depth + 2) ('[' :: c :: cs)
      = (arrayRest (value (depth + 1)) (c :: cs) [] (c :: cs)).map
          fun read => (array read.1, read.2) := by
  obtain ⟨hbracket, hspace⟩ := hc
  have hopen : skipSpace ('[' :: c :: cs) = '[' :: c :: cs := rfl
  rw [value]
  simp [hopen, hspace, hbracket]

/-- An array is read back if its items are. -/
theorem returns_array {items : List Json}
    (h : ∀ item ∈ items, Returns (value (depth + 1)) item) :
    Returns (value (depth + 2)) (array items) := by
  intro more _
  show value (depth + 2) ('[' :: (writeItems items ++ more)) = _
  rw [writeItems_eq]
  cases items with
  | nil => rfl
  | cons item items =>
      have hbound := Nat.le_trans
        (length_le_separated ']' ((item :: items).map write))
        (List.length_append ▸ Nat.le_add_right _ more.length)
      rw [List.length_map] at hbound
      have hread := loop_separated arrayRest_last arrayRest_next h
        (List.cons_ne_nil _ _) hbound [] more
      obtain ⟨c, cs, hwrite, hc⟩ := write_cons item
      obtain ⟨after, hlist⟩ := separated_cons ']' hwrite (items.map write)
      rw [List.map_cons, hlist, List.cons_append] at hread ⊢
      rw [value_bracket hc, hread]
      rfl

-- ============================================================= objects

/-- A member is read back with its value. -/
theorem member_write {entry : String × Json} (h : Returns item entry.2)
    (hmore : Ends more) :
    member item (writeMember entry ++ more) = .ok (entry, more) := by
  obtain ⟨key, json⟩ := entry
  have htext : writeMember (key, json) ++ more
      = '"' :: (key.toList.flatMap escape
        ++ '"' :: ':' :: (write json ++ more)) := by
    simp [writeMember, quote]
  rw [htext, member, stringRest_quote]
  show (item (write json ++ more)).bind _ = _
  rw [h more hmore]
  rfl

theorem objectRest_last {seen : List (String × Json)}
    {entry : String × Json} (h : Returns item entry.2) :
    objectRest item (b :: bound) seen (writeMember entry ++ '\x7d' :: rest)
      = .ok ((entry :: seen).reverse, rest) := by
  rw [objectRest, member_write h (ends_cons (by simp) rest)]
  rfl

theorem objectRest_next {seen : List (String × Json)}
    {entry second : String × Json} {members : List (String × Json)}
    (h : Returns item entry.2) :
    objectRest item (b :: bound) seen (writeMember entry
        ++ ',' :: (separated '\x7d' ((second :: members).map writeMember)
          ++ rest))
      = objectRest item bound (entry :: seen)
          (separated '\x7d' ((second :: members).map writeMember)
            ++ rest) := by
  obtain ⟨after, hlist⟩ := separated_cons '\x7d'
    (show writeMember second = '"' :: _ from rfl) (members.map writeMember)
  rw [List.map_cons, hlist, objectRest,
    member_write h (ends_cons (by simp) _)]
  rfl

/-- Behind its brace an object that is not empty is read by the loop. -/
theorem value_brace (cs : List Char) :
    value (depth + 2) ('\x7b' :: '"' :: cs)
      = (objectRest (value (depth + 1)) ('"' :: cs) [] ('"' :: cs)).map
          fun read => (object read.1, read.2) := by
  have hopen : skipSpace ('\x7b' :: '"' :: cs) = '\x7b' :: '"' :: cs := rfl
  have hquote : skipSpace ('"' :: cs) = '"' :: cs := rfl
  rw [value]
  simp [hopen, hquote]

/-- An object is read back if the values of its members are. It shows
where it ends, so that anything may stand behind it. -/
theorem value_object {members : List (String × Json)}
    (h : ∀ entry ∈ members, Returns (value (depth + 1)) entry.2)
    (more : List Char) :
    value (depth + 2) (write (object members) ++ more)
      = .ok (object members, more) := by
  show value (depth + 2) ('\x7b' :: (writeMembers members ++ more)) = _
  rw [writeMembers_eq]
  cases members with
  | nil => rfl
  | cons entry members =>
      have hbound := Nat.le_trans
        (length_le_separated '\x7d' ((entry :: members).map writeMember))
        (List.length_append ▸ Nat.le_add_right _ more.length)
      rw [List.length_map] at hbound
      have hread := loop_separated objectRest_last objectRest_next h
        (List.cons_ne_nil _ _) hbound [] more
      obtain ⟨after, hlist⟩ := separated_cons '\x7d'
        (show writeMember entry = '"' :: _ from rfl) (members.map writeMember)
      rw [List.map_cons, hlist, List.cons_append] at hread ⊢
      rw [value_brace, hread]
      rfl

/-- An object is read back when its values are. -/
theorem returns_object {members : List (String × Json)}
    (h : ∀ entry ∈ members, Returns (value (depth + 1)) entry.2) :
    Returns (value (depth + 2)) (object members) :=
  fun more _ => value_object h more

-- =========================================================== documents

/-- Whether a value is nested at most `depth` deep and holds no number
that is out of range. -/
def fits : Nat → Json → Bool
  | depth + 1, array items => items.all (fits depth)
  | depth + 1, object members => members.all fun (_, value) => fits depth value
  | 0, array _ | 0, object _ => false
  | _, number mantissa exponent =>
      !isInfinite (digitsOf mantissa.natAbs) [] exponent
  | _, null | _, bool _ | _, string _ => true

/-- A value that fits is read back. -/
theorem returns_of_fits : ∀ (depth : Nat) (json : Json),
    fits depth json = true → Returns (value (depth + 1)) json
  | _, null, _ => fun _ _ => rfl
  | _, bool true, _ => fun _ _ => rfl
  | _, bool false, _ => fun _ _ => rfl
  | _, number _ _, h => returns_number (by simpa [fits] using h)
  | _, string text, _ => returns_string text
  | depth + 1, array _, h => returns_array fun item hi =>
      returns_of_fits depth item (List.all_eq_true.mp h item hi)
  | depth + 1, object _, h => returns_object fun entry he =>
      returns_of_fits depth entry.2 (List.all_eq_true.mp h entry he)

/-- A document that is nested at most 127 deep, with numbers in range, is
what the reader makes of its text. -/
theorem parse_print {json : Json} (h : fits 127 json = true) :
    parse json.print = .ok json := by
  have hends : Ends [] := by
    intro c hc
    cases hc
  have hread := returns_of_fits 127 json h [] hends
  rw [List.append_nil] at hread
  unfold parse print
  rw [String.toList_ofList, hread]
  rfl

/-- So is an object that is followed by a line feed. -/
theorem parse_print_line {members : List (String × Json)}
    (h : fits 127 (object members) = true) :
    parse ((object members).print ++ "\n") = .ok (object members) := by
  have hread := value_object (fun entry he =>
    returns_of_fits 126 entry.2 (List.all_eq_true.mp h entry he)) ['\n']
  unfold parse print
  rw [String.toList_append, String.toList_ofList]
  show (value 128 (write (object members) ++ ['\n'])).bind _ = _
  rw [hread]
  rfl

end SchemaDocs.Json
