import TypeTokenWrappers.Proofs.Generation.Agreement

/-! # Entries of no interest

Only candidates give records. The other entries of an archive make no difference while
they can be opened. But an entry is opened before its name is looked at, so a single one
that cannot be opened makes the whole archive fail. -/

namespace TypeTokenWrappers

variable {rules : Config.Scan} {entry : Zip.Entry} {entries : List Zip.Entry}

/-- An entry as it can be read: its name and, if it can be opened, its content, which is
missing where the data is corrupt. -/
def Zip.Entry.reading (entry : Zip.Entry) : String × Option (Option (List UInt8)) :=
  (entry.name, entry.readable?.map entry.content?)

/-- The candidates among entries as they can be read, in order. -/
def candidatesOf (rules : Config.Scan) (entries : List Zip.Entry) :
    List (String × Option (Option (List UInt8))) :=
  (entries.filter (isCandidate rules ·.name)).map Zip.Entry.reading

/-- Whether all entries that are no candidates can be opened. -/
def OthersOpen (rules : Config.Scan) (entries : List Zip.Entry) : Prop :=
  ∀ entry ∈ entries, isCandidate rules entry.name = false → entry.readable?.isSome = true

def cannotBeOpened : Error := .archive "the entry cannot be opened"

/-- The record that a candidate gives. -/
def recordOfReading : String × Option (Option (List UInt8)) → Except Error ClassRecord
  | (_, none) => .error cannotBeOpened
  | (_, some none) => .error (.io (.other "the data of the entry is corrupt"))
  | (name, some (some bytes)) => .ok ⟨name, bytes⟩

/-! ## One entry -/

theorem recordOfEntry_of_closed (closed : entry.readable? = none) :
    recordOfEntry rules entry = .error cannotBeOpened := by
  rw [recordOfEntry, closed]
  rfl

theorem recordOfEntry_of_other (other : isCandidate rules entry.name = false)
    (opens : entry.readable?.isSome = true) : recordOfEntry rules entry = .ok none := by
  rcases Option.isSome_iff_exists.mp opens with ⟨data, found⟩
  rw [recordOfEntry, found]
  simp [other]

theorem recordOfEntry_of_candidate (candidate : isCandidate rules entry.name = true) :
    recordOfEntry rules entry = (recordOfReading entry.reading).map some := by
  rw [recordOfEntry, Zip.Entry.reading]
  cases entry.readable? with
  | none => rfl
  | some data =>
      rw [Option.map_some]
      cases content : entry.content? data with
      | none => simp [candidate, content, recordOfReading, Except.map]
      | some bytes => simp [candidate, content, recordOfReading, Except.map]

theorem candidatesOf_cons_of_candidate (candidate : isCandidate rules entry.name = true)
    (entries : List Zip.Entry) :
    candidatesOf rules (entry :: entries) = entry.reading :: candidatesOf rules entries := by
  simp [candidatesOf, candidate]

theorem candidatesOf_cons_of_other (other : isCandidate rules entry.name = false)
    (entries : List Zip.Entry) :
    candidatesOf rules (entry :: entries) = candidatesOf rules entries := by
  simp [candidatesOf, other]

/-! ## All entries -/

theorem recordsOfEntries_cons (entry : Zip.Entry) (entries : List Zip.Entry) :
    recordsOfEntries rules (entry :: entries) =
      recordOfEntry rules entry >>= fun record =>
        (recordsOfEntries rules entries).map (record.toList ++ ·) := by
  rw [recordsOfEntries, recordsOfEntries, List.mapM_cons]
  cases recordOfEntry rules entry with
  | error error => rfl
  | ok record =>
      change ((entries.mapM (recordOfEntry rules) >>= _) >>= _) = Except.map _ (_ >>= _)
      cases entries.mapM (recordOfEntry rules) with
      | error error => rfl
      | ok records =>
          change Except.ok ((record :: records).filterMap id) = Except.ok _
          cases record <;> rfl

/-- What an archive gives is told by its candidates, if the other entries can be opened. -/
theorem recordsOfEntries_eq (opens : OthersOpen rules entries) :
    recordsOfEntries rules entries = (candidatesOf rules entries).mapM recordOfReading := by
  induction entries with
  | nil => rfl
  | cons entry entries induction =>
      have others := induction fun entry member => opens entry (List.mem_cons_of_mem _ member)
      rw [recordsOfEntries_cons, others]
      cases candidate : isCandidate rules entry.name with
      | true =>
          rw [recordOfEntry_of_candidate candidate, candidatesOf_cons_of_candidate candidate,
            List.mapM_cons]
          cases recordOfReading entry.reading with
          | error error => rfl
          | ok record =>
              change Except.map _ _ = (_ >>= _)
              cases (candidatesOf rules entries).mapM recordOfReading <;> rfl
      | false =>
          rw [recordOfEntry_of_other candidate (opens entry List.mem_cons_self candidate),
            candidatesOf_cons_of_other candidate]
          change Except.map _ _ = _
          cases (candidatesOf rules entries).mapM recordOfReading <;> rfl

/-- What a candidate that can be opened and read is like. -/
def readingOf (record : ClassRecord) : String × Option (Option (List UInt8)) :=
  (record.entry, some (some record.bytes))

theorem mapM_recordOfReading (records : List ClassRecord) :
    (records.map readingOf).mapM recordOfReading = .ok records := by
  induction records with
  | nil => rfl
  | cons record records induction =>
      rw [List.map_cons, List.mapM_cons, induction]
      rfl

/-- Whether all candidates can be opened and read. -/
def CandidatesRead (rules : Config.Scan) (entries : List Zip.Entry) : Prop :=
  ∀ reading ∈ candidatesOf rules entries, ∃ content, reading.2 = some (some content)

theorem recordOfEntry_of_error {error : Error} (failed : recordOfEntry rules entry = .error error)
    (reads : isCandidate rules entry.name = true → ∃ content, entry.reading.2 = some (some content)) :
    error = cannotBeOpened := by
  cases opens : entry.readable? with
  | none =>
      rw [recordOfEntry_of_closed opens] at failed
      exact (Except.error.inj failed).symm
  | some data =>
      cases candidate : isCandidate rules entry.name with
      | false =>
          rw [recordOfEntry_of_other candidate (by rw [opens]; rfl)] at failed
          cases failed
      | true =>
          rcases reads candidate with ⟨content, read⟩
          have readings : entry.reading = (entry.name, some (some content)) := Prod.ext rfl read
          rw [recordOfEntry_of_candidate candidate, readings] at failed
          cases failed

/-- An entry that cannot be opened makes its archive fail, and tells why if the candidates
can all be read. -/
theorem recordsOfEntries_of_closed (member : entry ∈ entries) (closed : entry.readable? = none) :
    ∃ error, recordsOfEntries rules entries = .error error ∧
      (CandidatesRead rules entries → error = cannotBeOpened) := by
  induction entries with
  | nil => cases member
  | cons first entries induction =>
      rw [recordsOfEntries_cons]
      cases record : recordOfEntry rules first with
      | error error =>
          refine ⟨error, rfl, fun reads => recordOfEntry_of_error record fun candidate => ?_⟩
          apply reads
          rw [candidatesOf_cons_of_candidate candidate]
          exact List.mem_cons_self
      | ok found =>
          rcases List.mem_cons.mp member with same | member
          · rw [← same, recordOfEntry_of_closed closed] at record
            cases record
          · rcases induction member with ⟨error, failed, told⟩
            refine ⟨error, ?_, fun reads => told fun reading among => reads reading ?_⟩
            · rw [failed]
              rfl
            · cases candidate : isCandidate rules first.name with
              | true =>
                  rw [candidatesOf_cons_of_candidate candidate]
                  exact List.mem_cons_of_mem _ among
              | false => rwa [candidatesOf_cons_of_other candidate]

/-! ## Archives -/

theorem selectClasses_on {host : Observed} {archive : String} {file : List UInt8}
    (read : host.world.fileContent archive = .ok file) (lists : Zip.open? file = some entries) :
    ((selectClasses rules archive : Program (StateM Observed) _).on host).1 =
      recordsOfEntries rules entries := by
  rw [selectClasses, Program.on_bind, Program.on_lift, Observed.run_fileContent, read,
    Program.next_ok, Program.on_except, recordsOfArchive, lists]

theorem selectClasses_of_records {host : Observed} {archive : String} {file : List UInt8}
    {records : List ClassRecord}
    (read : host.world.fileContent archive = .ok file) (lists : Zip.open? file = some entries)
    (opens : OthersOpen rules entries)
    (candidates : candidatesOf rules entries = records.map readingOf) :
    ((selectClasses rules archive : Program (StateM Observed) _).on host).1 = .ok records := by
  rw [selectClasses_on read lists, recordsOfEntries_eq opens, candidates, mapM_recordOfReading]

theorem wrappersOfArchive_on_eq_bind (rules : Config.Scan) (archive : String) (host : Observed) :
    ((wrappersOfArchive rules archive : Program (StateM Observed) _).on host).1 =
      ((selectClasses rules archive : Program (StateM Observed) _).on host).1 >>=
        wrappersOfRecords rules := by
  rw [wrappersOfArchive, Program.on_bind]
  rcases (selectClasses rules archive : Program (StateM Observed) _).on host with
    ⟨error | records, state⟩
  · rfl
  · rw [Program.next_ok, Program.on_except]
    rfl

theorem wrappersOfArchive_on {host : Observed} {archive : String} {file : List UInt8}
    (read : host.world.fileContent archive = .ok file) (lists : Zip.open? file = some entries) :
    ((wrappersOfArchive rules archive : Program (StateM Observed) _).on host).1 =
      recordsOfEntries rules entries >>= wrappersOfRecords rules := by
  rw [wrappersOfArchive_on_eq_bind, selectClasses_on read lists]

/-- Two archives with the same candidates give the same, on whatever hosts they lie and
whatever else they hold, if all other entries can be opened. An archive with another entry
that cannot be opened fails; where its candidates can be read, that is why. -/
theorem wrappersOfArchive_others (rules : Config.Scan) {host host' : Observed}
    {archive archive' : String} {file file' : List UInt8} {entries entries' : List Zip.Entry}
    (read : host.world.fileContent archive = .ok file)
    (read' : host'.world.fileContent archive' = .ok file')
    (lists : Zip.open? file = some entries) (lists' : Zip.open? file' = some entries')
    (same : candidatesOf rules entries = candidatesOf rules entries') :
    let answer := ((wrappersOfArchive rules archive : Program (StateM Observed) _).on host).1
    let answer' := ((wrappersOfArchive rules archive' : Program (StateM Observed) _).on host').1
    (OthersOpen rules entries → OthersOpen rules entries' → answer = answer') ∧
      (¬ OthersOpen rules entries → ∃ error, answer = .error error ∧
        (CandidatesRead rules entries → error = .archive "the entry cannot be opened")) := by
  intro answer answer'
  have gives : answer = _ := wrappersOfArchive_on read lists
  have gives' : answer' = _ := wrappersOfArchive_on read' lists'
  constructor
  · intro opens opens'
    rw [gives, gives', recordsOfEntries_eq opens, recordsOfEntries_eq opens', same]
  · intro notAll
    rw [OthersOpen] at notAll
    push Not at notAll
    rcases notAll with ⟨entry, member, other, closed⟩
    rw [Ne, Option.not_isSome_iff_eq_none] at closed
    rcases @recordsOfEntries_of_closed rules _ _ member closed with ⟨error, failed, told⟩
    refine ⟨error, ?_, told⟩
    rw [gives, failed]
    rfl

/-! Archives of entries that are stored as they are. -/

structure StoredEntry where
  name : String
  encrypted : Bool
  checksum : UInt32
  content : List UInt8

def lowestFirst (count value : Nat) : List UInt8 :=
  (ClassFile.bytesOfNumber count value).reverse

namespace StoredEntry

/-- Checksum, sizes and the length of the name, as they stand in both headers. -/
def numbers (entry : StoredEntry) : List UInt8 :=
  lowestFirst 4 entry.checksum.toNat ++ lowestFirst 4 entry.content.length ++
    lowestFirst 4 entry.content.length ++ lowestFirst 2 (Utf8.encodeString entry.name).length

/-- The flags, with the method and the time, which are 0. -/
def flags (entry : StoredEntry) : List UInt8 :=
  (if entry.encrypted then 1 else 0) :: List.replicate 7 0

def localBytes (entry : StoredEntry) : List UInt8 :=
  Zip.localSignature ++ [10, 0] ++ entry.flags ++ entry.numbers ++ [0, 0] ++
    Utf8.encodeString entry.name ++ entry.content

def description (entry : StoredEntry) (offset : Nat) : List UInt8 :=
  Zip.directorySignature ++ [10, 0, 10, 0] ++ entry.flags ++ entry.numbers ++
    List.replicate 12 0 ++ lowestFirst 4 offset ++ Utf8.encodeString entry.name

def descriptions (offset : Nat) : List StoredEntry → List UInt8
  | [] => []
  | entry :: others =>
    entry.description offset ++ descriptions (offset + entry.localBytes.length) others

/-- The entry as it is found in an archive. -/
def found (entry : StoredEntry) : Zip.Entry :=
  ⟨entry.name, entry.encrypted, .stored, entry.checksum, some entry.content⟩

end StoredEntry

def archiveOf (entries : List StoredEntry) : List UInt8 :=
  let contents := entries.flatMap StoredEntry.localBytes
  let directory := StoredEntry.descriptions 0 entries
  let count := lowestFirst 2 entries.length
  contents ++ directory ++ Zip.endSignature ++ [0, 0, 0, 0] ++ count ++ count ++
    lowestFirst 4 directory.length ++ lowestFirst 4 contents.length ++ [0, 0]

def sampleClassEntry : StoredEntry :=
  ⟨"org/gradle/Finder.class", false, 0xFF0F197A, Wrapper.sampleRaw.bytes⟩

def sampleNote (encrypted : Bool) : StoredEntry := ⟨"META-INF/NOTE", encrypted, 0, [7]⟩

def sampleNested : StoredEntry := ⟨"org/gradle/Finder$1.class", false, 0, [0xCA]⟩

/-- A class alone, the same class between other entries, and behind an encrypted one. -/
def mixedHost : Observed where
  world := ⟨.directory [("gradle-a.jar", .file Generation.sampleArchive),
    ("gradle-b.jar", .file (archiveOf [sampleNote false, sampleClassEntry, sampleNested])),
    ("gradle-c.jar", .file (archiveOf [sampleNote true, sampleClassEntry]))], [], []⟩
  opened := []

theorem not_isCandidate_sampleNote (encrypted : Bool) :
    isCandidate {} (sampleNote encrypted).found.name = false := by
  cases encrypted <;> decide +kernel

theorem StoredEntry.reading_found {entry : StoredEntry} (plain : entry.encrypted = false)
    (fits : Crc32.checksum entry.content = entry.checksum) :
    entry.found.reading = (entry.name, some (some entry.content)) := by
  simp [Zip.Entry.reading, Zip.Entry.readable?, Zip.Entry.content?, found, plain, fits]

def sampleRecord : ClassRecord := ⟨"org/gradle/Finder.class", Wrapper.sampleRaw.bytes⟩

theorem reading_sampleClassEntry : sampleClassEntry.found.reading = readingOf sampleRecord :=
  StoredEntry.reading_found rfl Generation.checksum_sampleRaw

theorem othersOpen_sampleClassEntry : OthersOpen {} [sampleClassEntry.found] := by
  intro entry member _
  rw [List.mem_singleton.mp member]
  rfl

theorem candidatesOf_sampleClassEntry :
    candidatesOf {} [sampleClassEntry.found] = [sampleRecord].map readingOf := by
  rw [candidatesOf_cons_of_candidate (by decide +kernel), reading_sampleClassEntry]
  rfl

theorem wrappersOfArchive_others_mixedHost :
    ((wrappersOfArchive {} "gradle-a.jar" : Program (StateM Observed) _).on mixedHost).1 =
        .ok [Generation.sampleWrapper] ∧
      ((wrappersOfArchive {} "gradle-b.jar" : Program (StateM Observed) _).on mixedHost).1 =
        .ok [Generation.sampleWrapper] ∧
      ((wrappersOfArchive {} "gradle-c.jar" : Program (StateM Observed) _).on mixedHost).1 =
        .error (.archive "the entry cannot be opened") := by
  have nested : isCandidate {} sampleNested.found.name = false := by decide +kernel
  have plain : candidatesOf {} [(sampleNote false).found, sampleClassEntry.found,
      sampleNested.found] = candidatesOf {} [sampleClassEntry.found] := by
    rw [candidatesOf_cons_of_other (not_isCandidate_sampleNote false),
      candidatesOf_cons_of_candidate (by decide +kernel), candidatesOf_cons_of_other nested,
      candidatesOf_cons_of_candidate (by decide +kernel)]
  have locked : candidatesOf {} [(sampleNote true).found, sampleClassEntry.found] =
      candidatesOf {} [sampleClassEntry.found] :=
    candidatesOf_cons_of_other (not_isCandidate_sampleNote true) _
  have readA : mixedHost.world.fileContent "gradle-a.jar" = .ok Generation.sampleArchive := by
    decide +kernel
  have readB : mixedHost.world.fileContent "gradle-b.jar" =
      .ok (archiveOf [sampleNote false, sampleClassEntry, sampleNested]) := by
    decide +kernel
  have readC : mixedHost.world.fileContent "gradle-c.jar" =
      .ok (archiveOf [sampleNote true, sampleClassEntry]) := by
    decide +kernel
  have listsB : Zip.open? (archiveOf [sampleNote false, sampleClassEntry, sampleNested]) =
      some [(sampleNote false).found, sampleClassEntry.found, sampleNested.found] := by
    decide +kernel
  have listsC : Zip.open? (archiveOf [sampleNote true, sampleClassEntry]) =
      some [(sampleNote true).found, sampleClassEntry.found] := by
    decide +kernel
  have answer : ((wrappersOfArchive {} "gradle-a.jar" : Program (StateM Observed) _).on
      mixedHost).1 = .ok [Generation.sampleWrapper] := by
    have ran := congrArg Prod.fst (Generation.run_scanArchive {} "gradle-a.jar" mixedHost)
    rw [Generation.outcome, readA, Generation.scanOf_sampleArchive] at ran
    exact ran
  have opensB : OthersOpen {} [(sampleNote false).found, sampleClassEntry.found,
      sampleNested.found] := by
    intro entry member _
    simp only [List.mem_cons, List.not_mem_nil, or_false] at member
    rcases member with rfl | rfl | rfl <;> rfl
  have locksC : ¬ OthersOpen {} [(sampleNote true).found, sampleClassEntry.found] := by
    intro opens
    have opened := opens _ List.mem_cons_self (not_isCandidate_sampleNote true)
    cases opened
  have readsC : CandidatesRead {} [(sampleNote true).found, sampleClassEntry.found] := by
    intro reading member
    rw [locked, candidatesOf_sampleClassEntry] at member
    exact ⟨_, congrArg Prod.snd (List.mem_singleton.mp member)⟩
  have same := (wrappersOfArchive_others {} readA readB Generation.open?_sampleArchive listsB
    plain.symm).1 othersOpen_sampleClassEntry opensB
  rcases (wrappersOfArchive_others {} readC readA listsC Generation.open?_sampleArchive
    locked).2 locksC with ⟨error, failed, told⟩
  rw [told readsC] at failed
  exact ⟨answer, same.symm.trans answer, failed⟩

/-- Two archives without candidates, one of which holds an encrypted entry. -/
def lockedHost : Observed where
  world := ⟨.directory [("gradle-a.jar", .file (archiveOf [sampleNote false])),
    ("gradle-b.jar", .file (archiveOf [sampleNote true]))], [], []⟩
  opened := []

theorem wrappersOfArchive_encrypted_other :
    (∃ entries entries', Zip.open? (archiveOf [sampleNote false]) = some entries ∧
      Zip.open? (archiveOf [sampleNote true]) = some entries' ∧
      candidatesOf {} entries = [] ∧ candidatesOf {} entries' = []) ∧
    ((wrappersOfArchive {} "gradle-a.jar" : Program (StateM Observed) _).on lockedHost).1 =
      .ok [] ∧
    ((wrappersOfArchive {} "gradle-b.jar" : Program (StateM Observed) _).on lockedHost).1 =
      .error (.archive "the entry cannot be opened") := by
  refine ⟨⟨[(sampleNote false).found], [(sampleNote true).found], by decide +kernel,
    by decide +kernel, ?_, ?_⟩, by decide +kernel, by decide +kernel⟩
  · exact candidatesOf_cons_of_other (not_isCandidate_sampleNote false) []
  · exact candidatesOf_cons_of_other (not_isCandidate_sampleNote true) []

end TypeTokenWrappers
