import TypeTokenWrappers.Toml.Quotation
import TypeTokenWrappers.Toml.Writer

/-! # Written strings are read back

Whatever form a string is written in, the reader finds it again and stops behind
the closing quotes. -/

namespace TypeTokenWrappers

/-- What a reader has taken, and the text behind it. -/
def Taken.Gives (result : Option (Taken α limit)) (value : α) (rest : List Char) : Prop :=
  ∃ shorter : rest.length < limit, result = some ⟨value, rest, shorter⟩

theorem Taken.Gives.intro {result : Option (Taken α limit)} {value : α} {rest : List Char}
    {shorter : rest.length < limit} (found : result = some ⟨value, rest, shorter⟩) :
    Taken.Gives result value rest :=
  ⟨shorter, found⟩

namespace Toml

open Taken (Gives)

variable {text rest middle : List Char} {char : Char} {others : List Char}

/-! ## Basic strings -/

theorem readBasic_close : Gives (readBasic ('"' :: rest)) [] rest :=
  ⟨_, by rw [readBasic]; rfl⟩

theorem readBasic_plain (plain : isPlain char) (noQuote : char ≠ '"') (noBackslash : char ≠ '\\')
    (tail : Gives (readBasic text) others rest) :
    Gives (readBasic (char :: text)) (char :: others) rest := by
  rcases tail with ⟨_, found⟩
  apply Gives.intro
  rw [readBasic, if_pos plain, found]
  · rfl
  · exact noQuote
  · exact noBackslash

theorem readBasic_escape (escape : Gives (readEscape text) char middle)
    (tail : Gives (readBasic middle) others rest) :
    Gives (readBasic ('\\' :: text)) (char :: others) rest := by
  rcases escape with ⟨_, escape⟩
  rcases tail with ⟨_, tail⟩
  apply Gives.intro
  rw [readBasic, escape]
  change (readBasic middle >>= _) = _
  rw [tail]
  rfl

/-! ## How a character is written -/

theorem not_isControl (char : Char) : (!isControl char) = isPlain char := by
  have below : decide (char.toNat < 0x20) = !decide (0x20 ≤ char.toNat) := by
    rw [← decide_not]
    exact decide_eq_decide.mpr Nat.not_le.symm
  rw [isControl, isPlain, below, bne, bne]
  cases char == '\t' <;> cases decide (0x20 ≤ char.toNat) <;> cases char.toNat == 0x7F <;> rfl

/-- A character stands for itself, or an escape stands for it. -/
inductive Spells : (piece : List Char) → (char : Char) → Prop
  | itself {char : Char} (plain : isPlain char) (noQuote : char ≠ '"')
      (noBackslash : char ≠ '\\') : Spells [char] char
  | escape {code : List Char} {char : Char}
      (reads : ∀ rest, Gives (readEscape (code ++ rest)) char rest) : Spells ('\\' :: code) char

theorem codeDigits_read : ∀ code < 0x80, isControl (Char.ofNat code) →
    (codeDigits (Char.ofNat code)).length = 4 ∧
      (hexValue? (codeDigits (Char.ofNat code))).bind charOfNat? = some (Char.ofNat code) := by
  decide +kernel

theorem readCodePoint_codeDigits (control : isControl char) (rest : List Char) :
    Gives (readCodePoint 4 (codeDigits char ++ rest)) char rest := by
  have small : char.toNat < 0x80 := by
    simp only [isControl, Bool.and_eq_true, Bool.or_eq_true, decide_eq_true_eq, beq_iff_eq]
      at control
    omega
  have digits := codeDigits_read char.toNat small
  rw [Char.ofNat_toNat] at digits
  rcases digits control with ⟨four, value⟩
  have front : (codeDigits char ++ rest).take 4 = codeDigits char := List.take_left' four
  have behind : (codeDigits char ++ rest).drop 4 = rest := List.drop_left' four
  refine ⟨?_, ?_⟩
  · rw [List.length_append]
    omega
  · rw [readCodePoint, front, if_pos four, value]
    simp only [Option.bind_eq_bind, Option.bind_some, Taken.upTo, behind]
    rfl

theorem readEscape_unicode (number : Gives (readCodePoint 4 text) char rest) :
    Gives (readEscape ('u' :: text)) char rest := by
  rcases number with ⟨_, found⟩
  apply Gives.intro
  rw [readEscape, found]
  rfl

theorem spells_escapeChar (noQuote : char ≠ '"') : Spells (escapeChar char) char := by
  have escaped {letter : Char} {value : Char}
      (reads : ∀ rest, readEscape (letter :: rest) = some (.one value letter rest)) :
      Spells ['\\', letter] value := by
    apply Spells.escape
    intro rest
    exact .intro (reads rest)
  unfold escapeChar
  split
  · exact escaped fun _ => rfl
  · exact escaped fun _ => rfl
  · exact escaped fun _ => rfl
  · exact escaped fun _ => rfl
  · exact escaped fun _ => rfl
  · split
    case isTrue control =>
      apply Spells.escape
      intro rest
      exact readEscape_unicode (readCodePoint_codeDigits control rest)
    case isFalse control =>
      apply Spells.itself _ noQuote
      · assumption
      · rw [← not_isControl]
        simpa using control

/-- A written character begins with one that is plain. -/
theorem Spells.head {piece : List Char} (spells : Spells piece char) (text : List Char) :
    ∃ first more, piece ++ text = first :: more ∧ isPlain first = true ∧ first ≠ '"' := by
  cases spells with
  | itself plain noQuote => exact ⟨char, text, rfl, plain, noQuote⟩
  | @escape code => exact ⟨'\\', code ++ text, rfl, by decide, by decide⟩

theorem Spells.head?_ne {piece : List Char} (spells : Spells piece char) (text : List Char) :
    (piece ++ text).head? ≠ some '"' := by
  rcases spells.head text with ⟨first, more, same, _, noQuote⟩
  rw [same]
  exact fun equal => noQuote (Option.some.inj equal)

theorem spells_basicBody (char : Char) (text : List Char) :
    ∃ piece, basicBody (char :: text) = piece ++ basicBody text ∧ Spells piece char := by
  rw [basicBody, List.flatMap_cons]
  refine ⟨_, rfl, ?_⟩
  split
  · exact .escape fun _ => .intro rfl
  · exact .escape fun _ => .intro rfl
  · exact spells_escapeChar (by assumption)

theorem readBasic_spelled {piece : List Char} (spells : Spells piece char)
    (tail : Gives (readBasic text) others rest) :
    Gives (readBasic (piece ++ text)) (char :: others) rest := by
  cases spells with
  | itself plain noQuote noBackslash => exact readBasic_plain plain noQuote noBackslash tail
  | escape reads => exact readBasic_escape (reads text) tail

theorem readBasic_basicBody (text rest : List Char) :
    Gives (readBasic (basicBody text ++ '"' :: rest)) text rest := by
  induction text with
  | nil => exact readBasic_close
  | cons char text induction =>
      rcases spells_basicBody char text with ⟨piece, written, spells⟩
      rw [written, List.append_assoc]
      exact readBasic_spelled spells induction

/-! ## Literal strings -/

theorem readLiteral_plain (plain : isPlain char = true) (noQuote : char ≠ '\'')
    (tail : Gives (readLiteral text) others rest) :
    Gives (readLiteral (char :: text)) (char :: others) rest := by
  rcases tail with ⟨_, found⟩
  apply Gives.intro
  rw [readLiteral, if_pos plain, found]
  · rfl
  · exact noQuote

theorem readLiteral_raw (rest : List Char)
    (raw : ∀ char ∈ text, isPlain char = true ∧ char ≠ '\'') :
    Gives (readLiteral (text ++ '\'' :: rest)) text rest := by
  induction text with
  | nil => exact .intro rfl
  | cons char text induction =>
      rw [List.forall_mem_cons] at raw
      exact readLiteral_plain raw.1.1 raw.1.2 (induction raw.2)

/-! ## Quotes inside multi-line strings

Of a run of quotes at most two stand next to each other, unless the closing ones
follow. Both kinds of multi-line strings treat such a run alike. -/

section Run

variable {quote : Char} {run : Nat}

theorem closeMultiline_of_head (other : rest.head? ≠ some quote) :
    closeMultiline quote rest = .nothing [] rest := by
  match rest with
  | [] => rfl
  | [first] => exact if_neg fun same => other (congrArg some same)
  | first :: second :: rest => exact if_neg fun same => other (congrArg some same)

theorem closeMultiline_replicate (within : run ≤ 2) (other : rest.head? ≠ some quote) :
    Gives (some (closeMultiline quote (List.replicate run quote ++ rest)))
      (List.replicate run quote) rest := by
  match run, within with
  | 0, _ => exact .intro (congrArg some (closeMultiline_of_head other))
  | 1, _ =>
      cases rest with
      | nil => exact .intro (congrArg some (if_pos rfl))
      | cons second rest =>
          have different : second ≠ quote := fun same => other (congrArg some same)
          exact .intro (congrArg some ((if_pos rfl).trans (if_neg different)))
  | 2, _ => exact .intro (congrArg some ((if_pos rfl).trans (if_pos rfl)))

theorem replicate_append_tripled (run : Nat) (quote : Char) (rest : List Char) :
    List.replicate run quote ++ ([quote, quote, quote] ++ rest) =
      quote :: quote :: quote :: (List.replicate run quote ++ rest) := by
  have tripled : [quote, quote, quote] = List.replicate 3 quote := rfl
  rw [← List.append_assoc, tripled, List.replicate_append_replicate, Nat.add_comm,
    ← List.replicate_append_replicate, List.append_assoc]
  rfl

variable {reader : (text : List Char) → Option (Taken (List Char) text.length)}
  (passes : ∀ {text others rest}, (∀ more, text ≠ quote :: quote :: more) →
    Gives (reader text) others rest → Gives (reader (quote :: text)) (quote :: others) rest)
include passes

/-- A run of one or two quotes in front of something else is part of the string. -/
theorem reader_replicate (within : run ≤ 2) (other : text.head? ≠ some quote)
    (tail : Gives (reader text) others rest) :
    Gives (reader (List.replicate run quote ++ text)) (List.replicate run quote ++ others)
      rest := by
  have single : Gives (reader (quote :: text)) (quote :: others) rest := by
    apply passes _ tail
    rintro more rfl
    exact other rfl
  match run, within with
  | 0, _ => exact tail
  | 1, _ => exact single
  | 2, _ =>
      apply passes _ single
      rintro more same
      cases same
      exact other rfl

end Run

/-! ## Multi-line basic strings -/

theorem readMultilineBasic_char (allowed : isPlain char = true ∨ char = '\n')
    (noBackslash : char ≠ '\\') (single : ∀ more, char = '"' → text ≠ '"' :: '"' :: more)
    (tail : Gives (readMultilineBasic text) others rest) :
    Gives (readMultilineBasic (char :: text)) (char :: others) rest := by
  have allowed : (isPlain char || char == '\n') = true := by
    rwa [Bool.or_eq_true, beq_iff_eq]
  rcases tail with ⟨_, found⟩
  apply Gives.intro
  rw [readMultilineBasic, if_pos allowed, found]
  · rfl
  · exact single
  · exact noBackslash
  · rintro _ rfl
    exact absurd allowed (by decide)

theorem continueLine?_of_readEscape (escape : Gives (readEscape text) char middle) :
    continueLine? text = none := by
  rcases escape with ⟨_, found⟩
  unfold readEscape at found
  split at found
  · rfl
  · split at found <;> first | rfl | cases found

theorem readMultilineBasic_escape (escape : Gives (readEscape text) char middle)
    (tail : Gives (readMultilineBasic middle) others rest) :
    Gives (readMultilineBasic ('\\' :: text)) (char :: others) rest := by
  have continues := continueLine?_of_readEscape escape
  rcases escape with ⟨_, escape⟩
  rcases tail with ⟨_, tail⟩
  apply Gives.intro
  rw [readMultilineBasic, continues, escape]
  change (readMultilineBasic middle >>= _) = _
  rw [tail]
  rfl

theorem readMultilineBasic_spelled {piece : List Char} (spells : Spells piece char)
    (tail : Gives (readMultilineBasic text) others rest) :
    Gives (readMultilineBasic (piece ++ text)) (char :: others) rest := by
  cases spells with
  | itself plain noQuote noBackslash =>
      exact readMultilineBasic_char (.inl plain) noBackslash
        (fun _ quote => absurd quote noQuote) tail
  | escape reads => exact readMultilineBasic_escape (reads text) tail

theorem readMultilineBasic_close {run : Nat} (within : run ≤ 2)
    (other : rest.head? ≠ some '"') :
    Gives (readMultilineBasic (List.replicate run '"' ++ (['"', '"', '"'] ++ rest)))
      (List.replicate run '"') rest := by
  rcases closeMultiline_replicate within other with ⟨_, found⟩
  rw [replicate_append_tripled]
  apply Gives.intro
  rw [readMultilineBasic, Option.some.inj found]
  rfl

/-- The quotes of a run are read only once it is known what follows them. -/
theorem readMultilineBasic_multilineBody {run : Nat} (within : run ≤ 2) (text : List Char)
    (other : rest.head? ≠ some '"') :
    Gives (readMultilineBasic
        (List.replicate run '"' ++ (multilineBody run text ++ (['"', '"', '"'] ++ rest))))
      (List.replicate run '"' ++ text) rest := by
  have passes {text others rest} (single : ∀ more, text ≠ '"' :: '"' :: more)
      (tail : Gives (readMultilineBasic text) others rest) :
      Gives (readMultilineBasic ('"' :: text)) ('"' :: others) rest :=
    readMultilineBasic_char (.inl rfl) (by decide) (fun more _ => single more) tail
  fun_induction multilineBody run text with
  | case1 run =>
      rw [List.append_nil]
      exact readMultilineBasic_close within other
  | case2 text induction =>
      apply reader_replicate passes within (by simp)
      exact readMultilineBasic_escape (.intro rfl) (induction (by decide))
  | case3 run text less induction =>
      have longer := induction (by omega)
      rw [List.replicate_succ', List.append_assoc, List.append_assoc] at longer
      exact longer
  | case4 run text induction =>
      apply reader_replicate passes within (by simp)
      exact readMultilineBasic_char (.inr rfl) (by decide) (by simp) (induction (by decide))
  | case5 run char text noQuote noNewline induction =>
      have spells := spells_escapeChar noQuote
      rw [List.append_assoc]
      apply reader_replicate passes within (spells.head?_ne _)
      exact readMultilineBasic_spelled spells (induction (by decide))

/-! ## Multi-line literal strings -/

theorem readMultilineLiteral_char (allowed : isPlain char = true ∨ char = '\n')
    (single : ∀ more, char = '\'' → text ≠ '\'' :: '\'' :: more)
    (tail : Gives (readMultilineLiteral text) others rest) :
    Gives (readMultilineLiteral (char :: text)) (char :: others) rest := by
  have allowed : (isPlain char || char == '\n') = true := by
    rwa [Bool.or_eq_true, beq_iff_eq]
  rcases tail with ⟨_, found⟩
  apply Gives.intro
  rw [readMultilineLiteral, if_pos allowed, found]
  · rfl
  · exact single
  · rintro _ rfl
    exact absurd allowed (by decide)

theorem readMultilineLiteral_close {run : Nat} (within : run ≤ 2)
    (other : rest.head? ≠ some '\'') :
    Gives (readMultilineLiteral (List.replicate run '\'' ++ (['\'', '\'', '\''] ++ rest)))
      (List.replicate run '\'') rest := by
  rcases closeMultiline_replicate within other with ⟨_, found⟩
  rw [replicate_append_tripled]
  apply Gives.intro
  rw [readMultilineLiteral, Option.some.inj found]
  rfl

theorem hasRun_of_append {front : List Char} (absent : hasRun char 3 (front ++ text) = false) :
    hasRun char 3 text = false := by
  induction front with
  | nil => exact absent
  | cons first front induction =>
      rw [List.cons_append, hasRun, Bool.or_eq_false_iff] at absent
      exact induction absent.2

theorem lt_of_hasRun {run : Nat} (absent : hasRun char 3 (List.replicate run char ++ text) = false) :
    run ≤ 2 := by
  rcases Nat.lt_or_ge 2 run with more | less
  · have split : run = run - 3 + 3 := by omega
    rw [split, ← List.replicate_append_replicate, List.append_assoc] at absent
    have three := hasRun_of_append absent
    simp [List.replicate, hasRun, List.isPrefixOf] at three
  · exact less

theorem readMultilineLiteral_raw {run : Nat} (text : List Char)
    (absent : hasRun '\'' 3 (List.replicate run '\'' ++ text) = false)
    (raw : ∀ char ∈ text, isPlain char = true ∨ char = '\n') (other : rest.head? ≠ some '\'') :
    Gives (readMultilineLiteral
        (List.replicate run '\'' ++ (text ++ (['\'', '\'', '\''] ++ rest))))
      (List.replicate run '\'' ++ text) rest := by
  have passes {text others rest} (single : ∀ more, text ≠ '\'' :: '\'' :: more)
      (tail : Gives (readMultilineLiteral text) others rest) :
      Gives (readMultilineLiteral ('\'' :: text)) ('\'' :: others) rest :=
    readMultilineLiteral_char (.inl rfl) (fun more _ => single more) tail
  have within := lt_of_hasRun absent
  induction text generalizing run with
  | nil =>
      rw [List.append_nil]
      exact readMultilineLiteral_close within other
  | cons char text induction =>
      rw [List.forall_mem_cons] at raw
      by_cases quote : char = '\''
      · subst quote
        have longer : List.replicate run '\'' ++ '\'' :: text =
            List.replicate (run + 1) '\'' ++ text := by
          rw [List.replicate_succ', List.append_assoc]
          rfl
        rw [longer] at absent
        have tail := induction absent raw.2 (lt_of_hasRun absent)
        rw [List.replicate_succ', List.append_assoc, List.append_assoc] at tail
        exact tail
      · apply reader_replicate passes within (by simpa using quote)
        apply readMultilineLiteral_char raw.1 fun _ same => absurd same quote
        have split : List.replicate run '\'' ++ char :: text =
            (List.replicate run '\'' ++ [char]) ++ text := by
          rw [List.append_assoc]
          rfl
        rw [split] at absent
        exact @induction 0 (hasRun_of_append absent) raw.2 (by decide)

/-! ## Strings of all forms -/

theorem dropFirstNewline_of_plain (plain : isPlain char = true) :
    dropFirstNewline (char :: text) = .nothing () (char :: text) := by
  rw [dropFirstNewline]
  · rintro _ same
    cases same
    exact absurd plain (by decide)
  · rintro _ same
    cases same
    exact absurd plain (by decide)

/-- The newline behind the opening quotes is the only one that is dropped. -/
theorem dropFirstNewline_firstNewline {body : List Char}
    (begins : '\n' ∉ text → ∃ first more, body = first :: more ∧ isPlain first = true) :
    Gives (some (dropFirstNewline (firstNewline text ++ body))) () body := by
  by_cases holds : '\n' ∈ text
  · rw [firstNewline, if_pos (List.contains_iff_mem.mpr holds)]
    exact .intro rfl
  · rcases begins holds with ⟨first, more, rfl, plain⟩
    rw [firstNewline, if_neg (mt List.contains_iff_mem.mp holds)]
    exact .intro (congrArg some (dropFirstNewline_of_plain plain))

theorem multilineBody_head (rest : List Char) (without : '\n' ∉ text) :
    ∃ first more, multilineBody 0 text ++ (['"', '"', '"'] ++ rest) = first :: more ∧
      isPlain first = true := by
  cases text with
  | nil => exact ⟨_, _, rfl, by decide⟩
  | cons char text =>
      by_cases quote : char = '"'
      · subst quote
        exact ⟨_, _, rfl, by decide⟩
      · have noNewline : char ≠ '\n' := by
          rintro rfl
          exact without List.mem_cons_self
        rw [multilineBody, List.append_assoc]
        · rcases (spells_escapeChar quote).head _ with ⟨first, more, same, plain, _⟩
          exact ⟨first, more, same, plain⟩
        · exact quote
        · exact noNewline

theorem readQuotation_basic (string : Gives (readBasic text) others rest)
    (single : ∀ more, text ≠ '"' :: '"' :: more) :
    Gives (readQuotation ('"' :: text)) (String.ofList others) rest := by
  rcases string with ⟨_, found⟩
  apply Gives.intro
  rw [readQuotation, found]
  · rfl
  · exact single

theorem readQuotation_literal (string : Gives (readLiteral text) others rest)
    (single : ∀ more, text ≠ '\'' :: '\'' :: more) :
    Gives (readQuotation ('\'' :: text)) (String.ofList others) rest := by
  rcases string with ⟨_, found⟩
  apply Gives.intro
  rw [readQuotation, found]
  · rfl
  · exact single

theorem readQuotation_multilineBasic (start : Gives (some (dropFirstNewline text)) () middle)
    (string : Gives (readMultilineBasic middle) others rest) :
    Gives (readQuotation (['"', '"', '"'] ++ text)) (String.ofList others) rest := by
  rcases start with ⟨_, start⟩
  rcases string with ⟨_, string⟩
  apply Gives.intro
  change readQuotation ('"' :: '"' :: '"' :: text) = _
  rw [readQuotation, Option.some.inj start]
  change (readMultilineBasic middle >>= _) = _
  rw [string]
  rfl

theorem readQuotation_multilineLiteral (start : Gives (some (dropFirstNewline text)) () middle)
    (string : Gives (readMultilineLiteral middle) others rest) :
    Gives (readQuotation (['\'', '\'', '\''] ++ text)) (String.ofList others) rest := by
  rcases start with ⟨_, start⟩
  rcases string with ⟨_, string⟩
  apply Gives.intro
  change readQuotation ('\'' :: '\'' :: '\'' :: text) = _
  rw [readQuotation, Option.some.inj start]
  change (readMultilineLiteral middle >>= _) = _
  rw [string]
  rfl

theorem basicBody_ne_tripled (other : rest.head? ≠ some '"') (more : List Char) :
    basicBody text ++ '"' :: rest ≠ '"' :: '"' :: more := by
  intro same
  cases text with
  | nil => exact other (congrArg List.head? (List.cons.inj same).2)
  | cons char text =>
      rcases spells_basicBody char text with ⟨piece, written, spells⟩
      rw [written, List.append_assoc] at same
      exact spells.head?_ne _ (congrArg List.head? same)

/-- What a fitting form allows: in every form but one with escapes, the text is
written as it is. -/
theorem plain_of_fitsLiteral (fits : StringForm.fitsLiteral text = true) :
    ∀ char ∈ text, isPlain char = true ∧ char ≠ '\'' := by
  intro char member
  have each := List.all_eq_true.mp fits char member
  simp only [Bool.and_eq_true, bne_iff_ne, not_isControl] at each
  exact ⟨each.2, each.1.1⟩

theorem plain_of_fitsMultilineLiteral (fits : StringForm.fitsMultilineLiteral text = true) :
    hasRun '\'' 3 text = false ∧ ∀ char ∈ text, isPlain char = true ∨ char = '\n' := by
  rw [StringForm.fitsMultilineLiteral, Bool.and_eq_true, Bool.not_eq_true', List.all_eq_true]
    at fits
  refine ⟨fits.1, fun char member => ?_⟩
  have each := fits.2 char member
  rw [Bool.or_eq_true, not_isControl, beq_iff_eq] at each
  exact each.symm

theorem fits_of_choose (text : List Char) :
    (StringForm.choose text = .literal → StringForm.fitsLiteral text = true) ∧
      (StringForm.choose text = .multilineLiteral →
        StringForm.fitsMultilineLiteral text = true) := by
  grind [StringForm.choose]

/-- A string is read back from its written form, if no quote stands behind it. -/
theorem readQuotation_quoteString (text : List Char) (noDouble : rest.head? ≠ some '"')
    (noSingle : rest.head? ≠ some '\'') :
    Gives (readQuotation (quoteString text ++ rest)) (String.ofList text) rest := by
  cases form : StringForm.choose text with
  | basic =>
      have written : quoteString text ++ rest = '"' :: (basicBody text ++ '"' :: rest) := by
        simp [quoteString, form]
      rw [written]
      exact readQuotation_basic (readBasic_basicBody text rest) (basicBody_ne_tripled noDouble)
  | literal =>
      have written : quoteString text ++ rest = '\'' :: (text ++ '\'' :: rest) := by
        simp [quoteString, form]
      have raw := plain_of_fitsLiteral ((fits_of_choose text).1 form)
      rw [written]
      apply readQuotation_literal (readLiteral_raw rest raw)
      rintro more same
      cases text with
      | nil => exact noSingle (congrArg List.head? (List.cons.inj same).2)
      | cons char text => exact (raw char List.mem_cons_self).2 (List.cons.inj same).1
  | multilineBasic =>
      have written : quoteString text ++ rest = ['"', '"', '"'] ++
          (firstNewline text ++ (multilineBody 0 text ++ (['"', '"', '"'] ++ rest))) := by
        simp [quoteString, form]
      rw [written]
      apply readQuotation_multilineBasic
      · exact dropFirstNewline_firstNewline (multilineBody_head rest)
      · exact @readMultilineBasic_multilineBody rest 0 (by decide) text noDouble
  | multilineLiteral =>
      have written : quoteString text ++ rest = ['\'', '\'', '\''] ++
          (firstNewline text ++ (text ++ (['\'', '\'', '\''] ++ rest))) := by
        simp [quoteString, form]
      have raw := plain_of_fitsMultilineLiteral ((fits_of_choose text).2 form)
      rw [written]
      apply readQuotation_multilineLiteral
      · apply dropFirstNewline_firstNewline
        intro without
        cases text with
        | nil => exact ⟨_, _, rfl, by decide⟩
        | cons char text =>
            rcases raw.2 char List.mem_cons_self with plain | rfl
            · exact ⟨_, _, rfl, plain⟩
            · exact absurd List.mem_cons_self without
      · exact @readMultilineLiteral_raw rest 0 text raw.1 raw.2 noSingle

end Toml

end TypeTokenWrappers
