import TypeTokenWrappers.Proofs.Toml.Quotation
import TypeTokenWrappers.Toml.Document

/-! # Documents of sections and lines

A document that consists of headers and of lines with a bare key and a value is read
as just these sections, and its values are filed in the order in which they stand. -/

namespace TypeTokenWrappers.Toml

open Taken (Gives)

variable {text rest middle behind : List Char} {char : Char}

/-! ## What stands between statements -/

/-- Characters at which neither blanks nor line ends nor comments begin. -/
def isInk (char : Char) : Bool :=
  char != ' ' && char != '\t' && char != '\n' && char != '\r' && char != '#'

theorem skipBlanks_of_ink (ink : isInk char = true) :
    skipBlanks (char :: text) = .nothing () (char :: text) := by
  have other : ¬ (char == ' ' || char == '\t') = true := by
    grind [isInk]
  rw [skipBlanks, if_neg other]

theorem skipFiller_of_ink (ink : isInk char = true) :
    skipFiller false (char :: text) = some (.nothing () (char :: text)) := by
  have noReturn : char ≠ '\r' := by
    grind [isInk]
  have other : (char == '\n' || (!false && (char == ' ' || char == '\t'))) = false := by
    grind [isInk]
  have noComment : (char == '#') = false := by
    grind [isInk]
  rw [skipFiller, other, noComment]
  · rfl
  · rintro _ rfl
    exact absurd rfl noReturn

theorem skipFiller_ink (ink : isInk char = true) :
    Gives (skipFiller false (char :: text)) () (char :: text) :=
  .intro (skipFiller_of_ink ink)

theorem skipFiller_pass (passed : char = ' ' ∨ char = '\n')
    (tail : Gives (skipFiller false text) () rest) :
    Gives (skipFiller false (char :: text)) () rest := by
  rcases tail with ⟨_, found⟩
  rcases passed with rfl | rfl
  · apply Gives.intro
    rw [skipFiller, found]
    · rfl
    · simp
  · apply Gives.intro
    rw [skipFiller, found]
    · rfl
    · simp

/-! ## Separated pieces -/

/-- What stands behind the first of several pieces. -/
def behindFirst (separator : List Char) : (others : List (List Char)) → List Char
  | [] => []
  | next :: others => separator ++ separator.intercalate (next :: others)

theorem intercalate_cons (separator first : List Char) (others : List (List Char)) :
    separator.intercalate (first :: others) = first ++ behindFirst separator others := by
  cases others with
  | nil => rw [List.intercalate_singleton, behindFirst, List.append_nil]
  | cons next others => rw [List.intercalate_cons_cons, behindFirst, List.append_assoc]

/-! ## Arrays -/

theorem readElements_close {depth : Nat} (filler : Gives (skipFiller false text) () (']' :: rest)) :
    Gives (readElements depth text) [] rest := by
  rcases filler with ⟨_, found⟩
  apply Gives.intro
  rw [readElements, found]
  rfl

theorem readElements_last {depth : Nat} {value : Value} (other : char ≠ ']')
    (filler : Gives (skipFiller false text) () (char :: middle))
    (element : Gives (readValue depth (char :: middle)) value (']' :: rest)) :
    Gives (readElements depth text) [value] rest := by
  rcases filler with ⟨_, filler⟩
  rcases element with ⟨_, element⟩
  apply Gives.intro
  rw [readElements, filler, Option.bind_eq_bind, Option.bind_some]
  split
  case h_1 ahead => exact absurd (List.cons.inj ahead).1 other
  case h_2 =>
    rw [element, Option.bind_eq_bind, Option.bind_some]
    change (skipFiller false (']' :: rest) >>= _) = _
    rw [skipFiller_of_ink (by decide)]
    rfl

theorem readElements_more {depth : Nat} {value : Value} {values : List Value} (other : char ≠ ']')
    (filler : Gives (skipFiller false text) () (char :: middle))
    (element : Gives (readValue depth (char :: middle)) value (',' :: behind))
    (others : Gives (readElements depth behind) values rest) :
    Gives (readElements depth text) (value :: values) rest := by
  rcases filler with ⟨_, filler⟩
  rcases element with ⟨_, element⟩
  rcases others with ⟨_, others⟩
  apply Gives.intro
  rw [readElements, filler, Option.bind_eq_bind, Option.bind_some]
  split
  case h_1 ahead => exact absurd (List.cons.inj ahead).1 other
  case h_2 =>
    rw [element, Option.bind_eq_bind, Option.bind_some]
    change (skipFiller false (',' :: behind) >>= _) = _
    rw [skipFiller_of_ink (by decide)]
    change (readElements depth behind >>= _) = _
    rw [others]
    rfl

/-! ## Values -/

theorem quoteString_head (string text : List Char) :
    ∃ quote more, quoteString string ++ text = quote :: more ∧ (quote = '"' ∨ quote = '\'') := by
  rw [quoteString]
  cases StringForm.choose string with
  | basic | multilineBasic => exact ⟨'"', _, rfl, .inl rfl⟩
  | literal | multilineLiteral => exact ⟨'\'', _, rfl, .inr rfl⟩

theorem readValue_quotation {depth : Nat} {string : String} (isQuote : char = '"' ∨ char = '\'')
    (quotation : Gives (readQuotation (char :: text)) string rest) :
    Gives (readValue depth (char :: text)) (.string string) rest := by
  have quoted : (char == '"' || char == '\'') = true := by
    rwa [Bool.or_eq_true, beq_iff_eq, beq_iff_eq]
  rcases quotation with ⟨_, found⟩
  cases depth with
  | zero =>
      apply Gives.intro
      rw [readValue, if_pos quoted, found]
      rfl
  | succ depth =>
      apply Gives.intro
      rw [readValue, if_pos quoted, found]
      rfl

theorem readValue_quoteString {depth : Nat} (string : String) (noDouble : text.head? ≠ some '"')
    (noSingle : text.head? ≠ some '\'') :
    Gives (readValue depth (quoteString string.toList ++ text)) (.string string) text := by
  have quotation := readQuotation_quoteString string.toList noDouble noSingle
  rcases quoteString_head string.toList text with ⟨quote, more, written, isQuote⟩
  rw [String.ofList_toList] at quotation
  rw [written] at quotation ⊢
  exact readValue_quotation isQuote quotation

/-- The elements of an array, written one behind the other. -/
def quotedItems (items : List String) : List Char :=
  [',', ' '].intercalate (items.map fun item => quoteString item.toList)

theorem quote_ink {quote : Char} (isQuote : quote = '"' ∨ quote = '\'') :
    isInk quote = true ∧ quote ≠ ']' ∧ quote ≠ '[' := by
  rcases isQuote with rfl | rfl <;> decide

theorem quotedItems_cons (item : String) (others : List String) :
    quotedItems (item :: others) = quoteString item.toList ++
      behindFirst [',', ' '] (others.map fun item => quoteString item.toList) := by
  rw [quotedItems, List.map_cons, intercalate_cons]

theorem quotedItems_head (item : String) (others : List String) (text : List Char) :
    ∃ quote more, quotedItems (item :: others) ++ text = quote :: more ∧
      (quote = '"' ∨ quote = '\'') := by
  rw [quotedItems_cons, List.append_assoc]
  exact quoteString_head item.toList _

theorem skipFiller_quotedItems (items : List String) (text : List Char) :
    Gives (skipFiller false (quotedItems items ++ ']' :: text)) ()
      (quotedItems items ++ ']' :: text) := by
  cases items with
  | nil => exact skipFiller_ink (by decide)
  | cons item others =>
      rcases quotedItems_head item others (']' :: text) with ⟨quote, more, written, isQuote⟩
      rw [written]
      exact skipFiller_ink (quote_ink isQuote).1

theorem readElements_quotedItems {depth : Nat} (items : List String)
    (filler : Gives (skipFiller false text) () (quotedItems items ++ ']' :: rest)) :
    Gives (readElements depth text) (items.map Value.string) rest := by
  induction items generalizing text with
  | nil => exact readElements_close filler
  | cons item others induction =>
      have element : Gives (readValue depth (quotedItems (item :: others) ++ ']' :: rest))
          (.string item) (behindFirst [',', ' '] (others.map fun item =>
            quoteString item.toList) ++ ']' :: rest) := by
        rw [quotedItems_cons, List.append_assoc]
        apply readValue_quoteString
        · cases others <;> simp [behindFirst]
        · cases others <;> simp [behindFirst]
      rcases quotedItems_head item others (']' :: rest) with ⟨quote, more, written, isQuote⟩
      rw [written] at filler element
      -- What stands behind the element tells whether it is the last one.
      cases others with
      | nil => exact readElements_last (quote_ink isQuote).2.1 filler element
      | cons next others =>
          apply readElements_more (quote_ink isQuote).2.1 filler element
          apply induction
          exact skipFiller_pass (.inl rfl) (skipFiller_quotedItems (next :: others) rest)

theorem readValue_array {depth : Nat} {values : List Value}
    (elements : Gives (readElements depth text) values rest) :
    Gives (readValue (depth + 1) ('[' :: text)) (.array values) rest := by
  rcases elements with ⟨_, found⟩
  apply Gives.intro
  rw [readValue, if_neg (by decide), if_pos (by decide), found]
  rfl

theorem readValue_quoteArray {depth : Nat} (items : List String) (text : List Char) :
    Gives (readValue (depth + 1) (quoteArray items ++ text)) (.array (items.map .string)) text := by
  have written : quoteArray items ++ text = '[' :: (quotedItems items ++ ']' :: text) := by
    simp [quoteArray, quotedItems]
  rw [written]
  exact readValue_array (readElements_quotedItems items (skipFiller_quotedItems items text))

/-! ## Keys and lines -/

theorem isInk_of_isBareKeyChar (bare : isBareKeyChar char = true) : isInk char = true := by
  have different (other : Char) (noKey : isBareKeyChar other = false) : char ≠ other := by
    rintro rfl
    exact absurd (bare.symm.trans noKey) (by decide)
  simp only [isInk, Bool.and_eq_true, bne_iff_ne]
  refine ⟨⟨⟨⟨?_, ?_⟩, ?_⟩, ?_⟩, ?_⟩ <;> exact different _ rfl

/-- A key that needs no quotes. -/
def Bare (name : String) : Prop :=
  name ≠ "" ∧ name.toList.all isBareKeyChar = true

instance (name : String) : Decidable (Bare name) :=
  inferInstanceAs (Decidable (_ ∧ _))

theorem Bare.head {name : String} (bare : Bare name) :
    ∃ first more, name.toList = first :: more ∧ isBareKeyChar first = true := by
  rcases bare with ⟨nonempty, all⟩
  cases chars : name.toList with
  | nil => exact absurd (String.toList_eq_nil_iff.mp chars) nonempty
  | cons first more =>
      rw [chars, List.all_cons, Bool.and_eq_true] at all
      exact ⟨first, more, rfl, all.1⟩

theorem some?_append (front behind : List Char) (value : α) (nonempty : front ≠ []) :
    Gives (Taken.some? front.length value (front ++ behind)) value behind := by
  have positive := List.length_pos_iff.mpr nonempty
  have fits : 0 < front.length ∧ front.length ≤ (front ++ behind).length := by
    rw [List.length_append]
    omega
  have shorter : behind.length < (front ++ behind).length := by
    rw [List.length_append]
    omega
  refine ⟨shorter, ?_⟩
  simp only [Taken.some?, dif_pos fits, List.drop_left]

theorem readSimpleKey_unquoted (noDouble : char ≠ '"') (noSingle : char ≠ '\'') :
    readSimpleKey (char :: text) =
      Taken.some? ((char :: text).takeWhile isBareKeyChar).length
        (String.ofList ((char :: text).takeWhile isBareKeyChar)) (char :: text) := by
  rw [readSimpleKey]
  · rintro _ same
    exact noDouble (List.cons.inj same).1
  · rintro _ same
    exact noSingle (List.cons.inj same).1

theorem readSimpleKey_bare {name : String} (bare : Bare name)
    (ends : behind.takeWhile isBareKeyChar = []) :
    Gives (readSimpleKey (name.toList ++ behind)) name behind := by
  have key : (name.toList ++ behind).takeWhile isBareKeyChar = name.toList := by
    rw [List.takeWhile_append_of_pos (List.all_eq_true.mp bare.2), ends, List.append_nil]
  rcases bare.head with ⟨first, more, chars, isKey⟩
  have taken := some?_append name.toList behind name (by simp [chars])
  have step := @readSimpleKey_unquoted (more ++ behind) first
    (by rintro rfl; exact absurd isKey (by decide))
    (by rintro rfl; exact absurd isKey (by decide))
  rw [← List.cons_append, ← chars, key, String.ofList_toList] at step
  rw [step]
  exact taken

theorem readKey_bare {name : String} (bare : Bare name)
    (ends : behind.takeWhile isBareKeyChar = [])
    (blank : Gives (some (skipBlanks behind)) () (char :: rest)) (noDot : char ≠ '.') :
    Gives (readKey (name.toList ++ behind)) ⟨[], name⟩ (char :: rest) := by
  rcases readSimpleKey_bare bare ends with ⟨_, first⟩
  rcases blank with ⟨_, blank⟩
  apply Gives.intro
  rw [readKey, maximalDepth, readKeyParts, first, Option.bind_eq_bind, Option.bind_some]
  dsimp only
  rw [Option.some.inj blank]
  split
  case h_1 ahead => exact absurd (List.cons.inj ahead).1 noDot
  case h_2 => rfl

/-- A line of a document: what is written behind the key, and the value it stands for. -/
structure Line where
  key : String
  written : List Char
  value : Value

namespace Line

def chars (line : Line) : List Char :=
  line.key.toList ++ [' ', '=', ' '] ++ line.written ++ ['\n']

/-- Whether the line is one that the reader understands as it is meant. -/
structure Readable (line : Line) : Prop where
  key : Bare line.key
  head : ∃ first more, line.written = first :: more ∧ isInk first = true
  value : ∀ rest, Gives (readValue maximalDepth (line.written ++ '\n' :: rest)) line.value
    ('\n' :: rest)

end Line

theorem readEntries_entry {first : Char} {key : Key} {value : Value}
    {pairs : List (List String × String × Value)} (ink : isInk char = true) (noHeader : char ≠ '[')
    (named : Gives (readKey (char :: text)) key ('=' :: ' ' :: first :: middle))
    (begins : isInk first = true)
    (given : Gives (readValue maximalDepth (first :: middle)) value ('\n' :: behind))
    (others : Gives (readEntries behind) pairs rest) :
    Gives (readEntries (char :: text)) ((key.path, key.name, value) :: pairs) rest := by
  have assigned : Gives (readValue maximalDepth (skipBlanks (' ' :: first :: middle)).rest) value
      ('\n' :: behind) := by
    rw [skipBlanks, if_pos (by decide), skipBlanks_of_ink begins]
    exact given
  rcases named with ⟨_, named⟩
  rcases assigned with ⟨_, assigned⟩
  rcases others with ⟨_, others⟩
  apply Gives.intro
  rw [readEntries, skipFiller_of_ink ink, Option.bind_eq_bind, Option.bind_some]
  split
  case h_1 nothing => cases nothing
  case h_2 header => exact absurd (List.cons.inj header).1 noHeader
  case h_3 =>
    change (readKey (char :: text) >>= _) = _
    rw [named]
    change (readValue maximalDepth (skipBlanks (' ' :: first :: middle)).rest >>= _) = _
    rw [assigned]
    change (readEntries behind >>= _) = _
    rw [others]
    rfl

theorem readEntries_line {line : Line} {pairs : List (List String × String × Value)}
    (readable : line.Readable) (others : Gives (readEntries text) pairs rest) :
    Gives (readEntries (line.chars ++ text)) (([], line.key, line.value) :: pairs) rest := by
  rcases readable.key.head with ⟨char, name, chars, isKey⟩
  rcases readable.head with ⟨first, more, written, ink⟩
  have split : line.chars ++ text =
      line.key.toList ++ (' ' :: '=' :: ' ' :: (line.written ++ '\n' :: text)) := by
    simp [Line.chars]
  have named : Gives (readKey (line.key.toList ++ (' ' :: '=' :: ' ' ::
      (line.written ++ '\n' :: text)))) ⟨[], line.key⟩
      ('=' :: ' ' :: (line.written ++ '\n' :: text)) :=
    readKey_bare readable.key rfl (.intro rfl) (by decide)
  have given := readable.value text
  rw [split]
  rw [written, chars] at *
  apply readEntries_entry (isInk_of_isBareKeyChar isKey) _ named ink given others
  rintro rfl
  exact absurd isKey (by decide)

theorem readEntries_end (stop : Gives (skipFiller false text) () rest)
    (ends : rest = [] ∨ ∃ more, rest = '[' :: more) : Gives (readEntries text) [] rest := by
  rcases stop with ⟨_, found⟩
  rcases ends with rfl | ⟨more, rfl⟩
  · apply Gives.intro
    rw [readEntries, found]
    rfl
  · apply Gives.intro
    rw [readEntries, found]
    rfl

theorem readEntries_lines {lines : List Line} (readable : ∀ line ∈ lines, line.Readable)
    (stop : Gives (skipFiller false text) () rest) (ends : rest = [] ∨ ∃ more, rest = '[' :: more) :
    Gives (readEntries (lines.flatMap Line.chars ++ text))
      (lines.map fun line => ([], line.key, line.value)) rest := by
  induction lines with
  | nil => exact readEntries_end stop ends
  | cons line lines induction =>
      rw [List.forall_mem_cons] at readable
      rw [List.flatMap_cons, List.append_assoc]
      exact readEntries_line readable.1 (induction readable.2)

/-! ## Sections -/

theorem readHeader_bare {name : String} (bare : Bare name) :
    Gives (readHeader ('[' :: (name.toList ++ ']' :: '\n' :: text))) (.table ⟨[], name⟩) text := by
  rcases bare.head with ⟨first, more, chars, isKey⟩
  have key : Gives (readKey (skipBlanks (name.toList ++ ']' :: '\n' :: text)).rest) ⟨[], name⟩
      (']' :: '\n' :: text) := by
    rw [chars, List.cons_append, skipBlanks_of_ink (isInk_of_isBareKeyChar isKey)]
    change Gives (readKey (first :: more ++ ']' :: '\n' :: text)) _ _
    rw [← chars]
    exact readKey_bare bare rfl (.intro rfl) (by decide)
  have single (others : List Char) : name.toList ++ ']' :: '\n' :: text ≠ '[' :: others := by
    rw [chars]
    rintro same
    rw [(List.cons.inj same).1] at isKey
    exact absurd isKey (by decide)
  rcases key with ⟨_, key⟩
  apply Gives.intro
  rw [readHeader, key]
  · rfl
  · exact single

/-- A header and the lines below it. -/
structure Part where
  name : String
  lines : List Line

namespace Part

def chars (part : Part) : List Char :=
  '[' :: (part.name.toList ++ ']' :: '\n' :: part.lines.flatMap Line.chars)

structure Readable (part : Part) : Prop where
  name : Bare part.name
  lines : ∀ line ∈ part.lines, line.Readable

def pairs (part : Part) : List (List String × String × Value) :=
  part.lines.map fun line => ([], line.key, line.value)

/-- The section that the part is read as. -/
def asSection (part : Part) : Section :=
  ⟨.table ⟨[], part.name⟩, part.pairs⟩

end Part

/-- A document of parts, with a blank line between each two. -/
def documentChars (parts : List Part) : List Char :=
  ['\n'].intercalate (parts.map Part.chars)

theorem documentChars_cons (part : Part) (others : List Part) :
    documentChars (part :: others) =
      part.chars ++ behindFirst ['\n'] (others.map Part.chars) := by
  rw [documentChars, List.map_cons, intercalate_cons]

theorem readSections_cons {header : Header} {pairs : List (List String × String × Value)}
    {sections : List Section} (headed : Gives (readHeader (char :: text)) header middle)
    (filled : Gives (readEntries middle) pairs rest) (others : readSections rest = some sections) :
    readSections (char :: text) = some (⟨header, pairs⟩ :: sections) := by
  rcases headed with ⟨_, headed⟩
  rcases filled with ⟨_, filled⟩
  rw [readSections, headed]
  change (readEntries middle >>= _) = _
  rw [filled]
  change (readSections rest >>= _) = _
  rw [others]
  rfl

theorem skipFiller_behindFirst (others : List Part) :
    Gives (skipFiller false (behindFirst ['\n'] (others.map Part.chars))) ()
      (documentChars others) := by
  cases others with
  | nil => exact .intro rfl
  | cons next others =>
      apply skipFiller_pass (.inr rfl)
      change Gives (skipFiller false (documentChars (next :: others))) _ _
      rw [documentChars_cons]
      exact skipFiller_ink (by decide)

theorem documentChars_ends (parts : List Part) :
    documentChars parts = [] ∨ ∃ more, documentChars parts = '[' :: more := by
  cases parts with
  | nil => exact .inl rfl
  | cons part others =>
      rw [documentChars_cons]
      exact .inr ⟨_, rfl⟩

theorem readSections_documentChars {parts : List Part} (readable : ∀ part ∈ parts, part.Readable) :
    readSections (documentChars parts) = some (parts.map Part.asSection) := by
  induction parts with
  | nil => exact readSections.eq_1
  | cons part others induction =>
      rw [List.forall_mem_cons] at readable
      have split : documentChars (part :: others) = '[' :: (part.name.toList ++ ']' :: '\n' ::
          (part.lines.flatMap Line.chars ++
            behindFirst ['\n'] (others.map Part.chars))) := by
        simp [documentChars_cons, Part.chars]
      have filled := readEntries_lines readable.1.lines (skipFiller_behindFirst others)
        (documentChars_ends others)
      rw [split]
      exact readSections_cons (readHeader_bare readable.1.name) filled (induction readable.2)

/-! ## Filing -/

namespace Entries

theorem alter_fresh {entries : Entries} {key : String} (fresh : key ∉ entries.map Prod.fst)
    (change : Option Item → Option Item) :
    entries.alter key change = (change none).map fun item => entries ++ [(key, item)] := by
  induction entries with
  | nil =>
      rw [alter]
      cases change none <;> rfl
  | cons entry entries induction =>
      rw [List.map_cons, List.mem_cons, not_or] at fresh
      rw [alter, if_neg (Ne.symm fresh.1), induction fresh.2]
      cases change none <;> rfl

/-- Additions under new keys file their items at the end, one behind the other. -/
theorem foldlM_fresh {add : Entries → β → Option Entries} {key : β → String} {item : β → Item}
    {entries : Entries} {new : List β}
    (adds : ∀ other ∈ new, ∀ entries : Entries, key other ∉ entries.map Prod.fst →
      add entries other = some (entries ++ [(key other, item other)]))
    (fresh : ∀ other ∈ new, key other ∉ entries.map Prod.fst) (distinct : (new.map key).Nodup) :
    new.foldlM add entries = some (entries ++ new.map fun other => (key other, item other)) := by
  induction new generalizing entries with
  | nil => exact congrArg some (List.append_nil entries).symm
  | cons first new induction =>
      rw [List.forall_mem_cons] at adds fresh
      rw [List.map_cons, List.nodup_cons] at distinct
      have others : ∀ other ∈ new,
          key other ∉ (entries ++ [(key first, item first)]).map Prod.fst := by
        intro other member used
        rw [List.map_append, List.mem_append, List.map_singleton, List.mem_singleton] at used
        rcases used with used | same
        · exact fresh.2 other member used
        · exact distinct.1 (List.mem_map.mpr ⟨other, member, same⟩)
      rw [List.foldlM_cons, adds.1 entries fresh.1, Option.bind_eq_bind, Option.bind_some,
        induction adds.2 others distinct.2, List.append_assoc]
      rfl

theorem insertAll_fresh {lines : List Line} (distinct : (lines.map Line.key).Nodup) :
    insertAll [] (lines.map fun line => ([], line.key, line.value)) =
      some (lines.map fun line => (line.key, .value line.value)) := by
  rw [insertAll, List.foldlM_map]
  apply foldlM_fresh
  · intro line member entries fresh
    exact alter_fresh fresh _
  · simp
  · exact distinct

end Entries

/-- The table that a part stands for. -/
def Part.entries (part : Part) : List (String × Value) :=
  part.lines.map fun line => (line.key, line.value)

theorem addTo_fresh {part : Part} {entries : Entries} (fresh : part.name ∉ entries.map Prod.fst)
    (distinct : (part.lines.map Line.key).Nodup) :
    part.asSection.addTo entries = some (entries ++ [(part.name, .table .header
      (part.lines.map fun line => (line.key, .value line.value)))]) := by
  change entries.alter part.name _ = _
  rw [Entries.alter_fresh fresh]
  change ((Entries.insertAll [] part.pairs).map (Item.table .header)).map _ = _
  rw [Part.pairs, Entries.insertAll_fresh distinct]
  rfl

theorem entriesToValues_map {new : List β} (key : β → String) (item : β → Item) :
    entriesToValues (new.map fun other => (key other, item other)) =
      new.map fun other => (key other, (item other).toValue) := by
  induction new with
  | nil => rfl
  | cons first new induction => rw [List.map_cons, entriesToValues, induction, List.map_cons]

theorem dropByteOrderMark_documentChars (parts : List Part) :
    dropByteOrderMark (documentChars parts) = documentChars parts := by
  rcases documentChars_ends parts with empty | ⟨more, begins⟩
  · rw [empty, dropByteOrderMark]
  · rw [begins, dropByteOrderMark, if_neg (by decide)]

theorem readEntries_documentChars (parts : List Part) :
    Gives (readEntries (documentChars parts)) [] (documentChars parts) := by
  apply readEntries_end _ (documentChars_ends parts)
  rcases documentChars_ends parts with empty | ⟨more, begins⟩
  · rw [empty]
    exact .intro rfl
  · rw [begins]
    exact skipFiller_ink (by decide)

/-- A document of readable parts is read as their tables, if no name stands twice. -/
theorem parse?_documentChars {parts : List Part} (readable : ∀ part ∈ parts, part.Readable)
    (names : (parts.map Part.name).Nodup)
    (keys : ∀ part ∈ parts, (part.lines.map Line.key).Nodup) :
    parse? (String.ofList (documentChars parts)) =
      some (parts.map fun part => (part.name, .table part.entries)) := by
  rcases readEntries_documentChars parts with ⟨_, front⟩
  have filed : (parts.map Part.asSection).foldlM Section.addTo [] =
      some (parts.map fun part => (part.name, .table .header
        (part.lines.map fun line => (line.key, .value line.value)))) := by
    rw [List.foldlM_map]
    apply Entries.foldlM_fresh
    · intro part member entries fresh
      exact addTo_fresh fresh (keys part member)
    · simp
    · exact names
  have values (part : Part) : (Item.table .header
      (part.lines.map fun line => (line.key, .value line.value))).toValue =
        .table part.entries := by
    rw [Item.toValue, entriesToValues_map]
    rfl
  rw [parse?, String.toList_ofList, dropByteOrderMark_documentChars, front]
  change (readSections (documentChars parts) >>= _) = _
  rw [readSections_documentChars readable]
  change ((parts.map Part.asSection).foldlM Section.addTo [] >>= _) = _
  rw [filed]
  change some (entriesToValues _) = _
  rw [entriesToValues_map]
  simp only [values]

end TypeTokenWrappers.Toml
