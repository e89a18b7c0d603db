import TypeTokenWrappers.Proofs.Generation.Failure

/-! # Rules that leave wrappers out

Rules that exclude more names drop just the wrappers of these names, wherever they stand,
and hide no failure: all that is read is read as before. Rules that ask for longer
beginnings read less; what could be read is still read, and less is found in it. -/

namespace TypeTokenWrappers

variable {rules narrowed : Config.Scan} {names types : List String}

/-- Whether the only difference of the second rules is that they exclude these methods and
types as well. -/
structure Config.Scan.Excludes (rules narrowed : Config.Scan) (names types : List String) :
    Prop where
  jarPrefix : narrowed.jarPrefix = rules.jarPrefix
  rootNamespace : narrowed.rootNamespace = rules.rootNamespace
  methods : ∀ name, name ∈ narrowed.methodBlacklist ↔ name ∈ rules.methodBlacklist ∨ name ∈ names
  types : ∀ name, name ∈ narrowed.typeBlacklist ↔ name ∈ rules.typeBlacklist ∨ name ∈ types

/-- Whether the only difference of the second rules is that archives and entries have to
begin with a longer text. -/
structure Config.Scan.Lengthens (rules narrowed : Config.Scan) : Prop where
  jarPrefix : ∃ more, narrowed.jarPrefix = rules.jarPrefix ++ more
  rootNamespace : ∃ more, narrowed.rootNamespace = rules.rootNamespace ++ more
  methodBlacklist : narrowed.methodBlacklist = rules.methodBlacklist
  typeBlacklist : narrowed.typeBlacklist = rules.typeBlacklist

namespace Wrapper

/-- Whether a wrapper has none of these names. -/
def stays (names types : List String) (wrapper : Wrapper) : Bool :=
  wrapper.functionName ∉ names ∧ wrapper.extendedType ∉ types

/-- Items that are failures stay. -/
def itemStays (names types : List String) : Except Error Wrapper → Bool
  | .ok wrapper => wrapper.stays names types
  | .error _ => true

/-! ## Excluded names -/

theorem admitted_iff_of_excludes (excludes : rules.Excludes narrowed names types)
    {header : ClassHeader} :
    Admitted narrowed header ↔ Admitted rules header ∧ ClassName.dotted header.name ∉ types := by
  constructor
  · intro admitted
    have allowed := admitted.allowed
    rw [excludes.types, not_or] at allowed
    exact ⟨⟨allowed.1, admitted.extendsObject, admitted.notGeneric⟩, allowed.2⟩
  · rintro ⟨admitted, other⟩
    refine ⟨?_, admitted.extendsObject, admitted.notGeneric⟩
    rw [excludes.types, not_or]
    exact ⟨admitted.allowed, other⟩

theorem eligible_iff_of_excludes (excludes : rules.Excludes narrowed names types)
    {method : CompiledMethod} :
    Eligible narrowed method ↔ Eligible rules method ∧ method.name ∉ names := by
  constructor
  · intro eligible
    have allowed := eligible.allowed
    rw [excludes.methods, not_or] at allowed
    exact ⟨⟨allowed.1, eligible.isPublic, eligible.takesToken, eligible.declares⟩, allowed.2⟩
  · rintro ⟨eligible, other⟩
    refine ⟨?_, eligible.isPublic, eligible.takesToken, eligible.declares⟩
    rw [excludes.methods, not_or]
    exact ⟨eligible.allowed, other⟩

/-- The wrapper of a method of a class, if it has one. -/
def ofMember? (rules : Config.Scan) (header : ClassHeader) (method : CompiledMethod) :
    Option Wrapper :=
  (extendedType? rules header).bind (ofMethod? rules · method)

theorem ofMember?_eq_some_iff {header : ClassHeader} {method : CompiledMethod}
    {wrapper : Wrapper} :
    ofMember? rules header method = some wrapper ↔
      Admitted rules header ∧ Eligible rules method ∧
        Wraps (ClassName.dotted header.name) method wrapper := by
  simp only [ofMember?, Option.bind_eq_some_iff, extendedType?_eq_some_iff,
    ofMethod?_eq_some_iff]
  constructor
  · rintro ⟨_, ⟨admitted, rfl⟩, eligible, wraps⟩
    exact ⟨admitted, eligible, wraps⟩
  · rintro ⟨admitted, eligible, wraps⟩
    exact ⟨_, ⟨admitted, rfl⟩, eligible, wraps⟩

theorem ofMember?_of_excludes (excludes : rules.Excludes narrowed names types)
    (header : ClassHeader) (method : CompiledMethod) :
    ofMember? narrowed header method =
      (ofMember? rules header method).filter (stays names types) := by
  apply Option.ext
  intro wrapper
  simp only [Option.filter_eq_some_iff, ofMember?_eq_some_iff, stays, decide_eq_true_eq,
    admitted_iff_of_excludes excludes, eligible_iff_of_excludes excludes]
  constructor
  · rintro ⟨⟨admitted, typeStays⟩, ⟨eligible, methodStays⟩, wraps⟩
    rw [wraps.functionName, wraps.extendedType]
    exact ⟨⟨admitted, eligible, wraps⟩, methodStays, typeStays⟩
  · rintro ⟨⟨admitted, eligible, wraps⟩, methodStays, typeStays⟩
    rw [wraps.functionName] at methodStays
    rw [wraps.extendedType] at typeStays
    exact ⟨⟨admitted, typeStays⟩, ⟨eligible, methodStays⟩, wraps⟩

theorem ofClass_of_excludes (excludes : rules.Excludes narrowed names types)
    (compiled : CompiledClass) :
    ofClass narrowed compiled = (ofClass rules compiled).filter (stays names types) := by
  rw [ofClass_eq, ofClass_eq, List.filter_filterMap]
  exact List.filterMap_congr fun method _ => ofMember?_of_excludes excludes compiled.header method

theorem ofRecord_of_excludes (excludes : rules.Excludes narrowed names types)
    (record : ClassRecord) :
    ofRecord narrowed record = (ofRecord rules record).map (List.filter (stays names types)) := by
  rw [ofRecord, ofRecord]
  cases CompiledClass.ofBytes record.bytes with
  | error error => rfl
  | ok compiled => exact congrArg Except.ok (ofClass_of_excludes excludes compiled)

end Wrapper

theorem wrappersOfRecords_eq_bind (rules : Config.Scan) (record : ClassRecord)
    (others : List ClassRecord) :
    wrappersOfRecords rules (record :: others) =
      Wrapper.ofRecord rules record >>= fun wrappers =>
        (wrappersOfRecords rules others).map (wrappers ++ ·) := by
  rw [wrappersOfRecords, wrappersOfRecords, List.mapM_cons]
  cases Wrapper.ofRecord rules record with
  | error error => rfl
  | ok wrappers => cases others.mapM (Wrapper.ofRecord rules) <;> rfl

theorem wrappersOfRecords_of_excludes (excludes : rules.Excludes narrowed names types)
    (records : List ClassRecord) :
    wrappersOfRecords narrowed records =
      (wrappersOfRecords rules records).map (List.filter (Wrapper.stays names types)) := by
  induction records with
  | nil => rfl
  | cons record records induction =>
      rw [wrappersOfRecords_eq_bind, wrappersOfRecords_eq_bind, induction,
        Wrapper.ofRecord_of_excludes excludes]
      cases Wrapper.ofRecord rules record with
      | error error => rfl
      | ok wrappers =>
          cases wrappersOfRecords rules records with
          | error error => rfl
          | ok others => exact congrArg Except.ok (List.filter_append wrappers others).symm

/-- Which entries are read is a matter of the root namespace alone. -/
theorem recordsOfArchive_congr (same : narrowed.rootNamespace = rules.rootNamespace) :
    recordsOfArchive narrowed = recordsOfArchive rules := by
  have candidates : isCandidate narrowed = isCandidate rules := by
    funext name
    rw [isCandidate, isCandidate, same]
  have records : recordOfEntry narrowed = recordOfEntry rules := by
    funext entry
    rw [recordOfEntry, recordOfEntry, candidates]
  funext file
  rw [recordsOfArchive, recordsOfArchive]
  cases Zip.open? file with
  | none => rfl
  | some entries =>
    exact congrArg (entries.mapM · >>= fun found => pure (found.filterMap id)) records

namespace Generation

open WrapperStream (itemsOf itemsOf_ok outcomes answerNumber takes_answerNumber map_item_entries)

theorem scanOf_of_excludes (excludes : rules.Excludes narrowed names types)
    (read : Except IoError (List UInt8)) :
    scanOf narrowed read = (scanOf rules read).map (List.filter (Wrapper.stays names types)) := by
  match read with
  | .ok file =>
      rw [scanOf, scanOf, recordsOfArchive_congr excludes.rootNamespace]
      cases recordsOfArchive rules file with
      | error error => rfl
      | ok records => exact wrappersOfRecords_of_excludes excludes records
  | .error (.os .isDirectory) => rfl
  | .error (.os .notFound) | .error (.os .exists) | .error (.os .notDirectory)
  | .error (.os .nameTooLong) | .error (.os (.other _ _)) | .error (.other _) => rfl

theorem itemsOf_filter (outcomes : List (Except Error (List Wrapper))) :
    itemsOf (outcomes.map (Except.map (List.filter (Wrapper.stays names types)))) =
      (itemsOf outcomes).filter (Wrapper.itemStays names types) := by
  induction outcomes with
  | nil => rfl
  | cons outcome others induction =>
      cases outcome with
      | error error => rfl
      | ok wrappers =>
          change itemsOf (.ok (wrappers.filter _) :: others.map _) = _
          rw [itemsOf_ok, itemsOf_ok, induction, List.filter_append, List.filter_map]
          rfl

/-- What the stream over those of the paths that are scanned gives on a host. -/
def streamed (rules : Config.Scan) (paths : List String) (host : Observed) :
    List (Except Error Wrapper) :=
  ((items rules paths : StateM Observed _).run host).1

theorem streamed_eq (rules : Config.Scan) (paths : List String) (host : Observed) :
    streamed rules paths host = itemsOf
      ((Path.withNameBeginning rules.jarPrefix paths).map (outcome rules host.world)) := by
  rw [streamed, items, run_items]

theorem streamed_of_excludes (excludes : rules.Excludes narrowed names types)
    (paths : List String) (host : Observed) :
    streamed narrowed paths host =
      (streamed rules paths host).filter (Wrapper.itemStays names types) := by
  have each : outcome narrowed host.world =
      Except.map (List.filter (Wrapper.stays names types)) ∘ outcome rules host.world :=
    funext fun archive => scanOf_of_excludes excludes (host.world.fileContent archive)
  rw [streamed_eq, streamed_eq, excludes.jarPrefix, each, ← List.map_map, itemsOf_filter]

/-! ## Longer beginnings -/

theorem isCandidate_of_lengthens (lengthens : rules.Lengthens narrowed) {name : String}
    (candidate : isCandidate narrowed name = true) : isCandidate rules name = true := by
  rcases lengthens.rootNamespace with ⟨more, longer⟩
  simp only [isCandidate, Bool.and_eq_true, longer, String.toList_append] at candidate ⊢
  refine ⟨candidate.1, ?_⟩
  rw [List.isPrefixOf_iff_prefix] at candidate ⊢
  exact (List.prefix_append _ _).trans candidate.2

/-- An entry that could be read is read still or passed over. -/
theorem recordOfEntry_of_lengthens (lengthens : rules.Lengthens narrowed) {entry : Zip.Entry}
    {found : Option ClassRecord} (read : recordOfEntry rules entry = .ok found) :
    ∃ fewer, recordOfEntry narrowed entry = .ok fewer ∧
      fewer.toList.Sublist found.toList := by
  cases opens : entry.readable? with
  | none =>
      rw [recordOfEntry_of_closed opens] at read
      cases read
  | some data =>
      cases candidate : isCandidate narrowed entry.name with
      | false =>
          exact ⟨none, recordOfEntry_of_other candidate (by rw [opens]; rfl), List.nil_sublist _⟩
      | true =>
          rw [recordOfEntry_of_candidate (isCandidate_of_lengthens lengthens candidate)] at read
          exact ⟨found, (recordOfEntry_of_candidate candidate).trans read, List.Sublist.refl _⟩

theorem recordsOfEntries_of_lengthens (lengthens : rules.Lengthens narrowed)
    {entries : List Zip.Entry} {records : List ClassRecord}
    (read : recordsOfEntries rules entries = .ok records) :
    ∃ fewer, recordsOfEntries narrowed entries = .ok fewer ∧ fewer.Sublist records := by
  induction entries generalizing records with
  | nil => exact ⟨records, read, List.Sublist.refl _⟩
  | cons entry entries induction =>
      rw [recordsOfEntries_cons] at read ⊢
      rcases bind_ok_iff.mp read with ⟨found, readFirst, read⟩
      rcases map_ok_iff.mp read with ⟨others, readOthers, rfl⟩
      rcases recordOfEntry_of_lengthens lengthens readFirst with ⟨fewer, first, less⟩
      rcases induction readOthers with ⟨fewerOthers, rest, lessOthers⟩
      rw [first, rest]
      exact ⟨_, rfl, less.append lessOthers⟩

/-- What is selected in a class is a matter of the excluded names alone. -/
theorem ofRecord_congr (methods : narrowed.methodBlacklist = rules.methodBlacklist)
    (types : narrowed.typeBlacklist = rules.typeBlacklist) :
    Wrapper.ofRecord narrowed = Wrapper.ofRecord rules := by
  have extended : Wrapper.extendedType? narrowed = Wrapper.extendedType? rules := by
    funext header
    rw [Wrapper.extendedType?, Wrapper.extendedType?, types]
  have member : Wrapper.ofMethod? narrowed = Wrapper.ofMethod? rules := by
    funext extendedType method
    rw [Wrapper.ofMethod?, Wrapper.ofMethod?, methods]
  funext record
  rw [Wrapper.ofRecord, Wrapper.ofRecord]
  cases CompiledClass.ofBytes record.bytes with
  | error error => rfl
  | ok compiled =>
      dsimp only
      rw [Wrapper.ofClass_eq, Wrapper.ofClass_eq, extended, member]

/-- Of fewer records less is found, each of which is in order still. -/
theorem wrappersOfRecords_of_sublist {records fewer : List ClassRecord} {wrappers : List Wrapper}
    (less : fewer.Sublist records) (found : wrappersOfRecords rules records = .ok wrappers) :
    ∃ left, wrappersOfRecords rules fewer = .ok left ∧ left.Sublist wrappers := by
  induction less generalizing wrappers with
  | slnil => exact ⟨wrappers, found, List.Sublist.refl _⟩
  | cons record less induction =>
      rw [wrappersOfRecords_eq_bind] at found
      rcases bind_ok_iff.mp found with ⟨first, _, behind⟩
      rcases map_ok_iff.mp behind with ⟨others, foundOthers, rfl⟩
      rcases induction foundOthers with ⟨left, leaves, sublist⟩
      exact ⟨left, leaves, List.sublist_append_of_sublist_right sublist⟩
  | cons_cons record less induction =>
      rw [wrappersOfRecords_eq_bind] at found ⊢
      rcases bind_ok_iff.mp found with ⟨first, selected, behind⟩
      rcases map_ok_iff.mp behind with ⟨others, foundOthers, rfl⟩
      rcases induction foundOthers with ⟨left, leaves, sublist⟩
      rw [selected, leaves]
      exact ⟨first ++ left, rfl, (List.Sublist.refl first).append sublist⟩

theorem outcome_of_lengthens (lengthens : rules.Lengthens narrowed) {world : World}
    {archive : String} {wrappers : List Wrapper}
    (gives : outcome rules world archive = .ok wrappers) :
    ∃ left, outcome narrowed world archive = .ok left ∧ left.Sublist wrappers := by
  rw [outcome] at gives ⊢
  rcases content_of_scanOf_ok gives with ⟨file, read⟩
  rw [read, scanOf, recordsOfArchive] at gives
  rw [read, scanOf, recordsOfArchive]
  cases lists : Zip.open? file with
  | none =>
      rw [lists] at gives
      cases gives
  | some entries =>
      rw [lists] at gives
      rcases bind_ok_iff.mp gives with ⟨records, select, found⟩
      rcases recordsOfEntries_of_lengthens lengthens select with ⟨fewer, selectFewer, less⟩
      rcases wrappersOfRecords_of_sublist less found with ⟨left, leaves, sublist⟩
      refine ⟨left, bind_ok_iff.mpr ⟨fewer, selectFewer, ?_⟩, sublist⟩
      rw [wrappersOfRecords, ofRecord_congr lengthens.methodBlacklist lengthens.typeBlacklist]
      exact leaves

theorem withNameBeginning_of_lengthens (lengthens : rules.Lengthens narrowed)
    (paths : List String) :
    (Path.withNameBeginning narrowed.jarPrefix paths).Sublist
      (Path.withNameBeginning rules.jarPrefix paths) := by
  rcases lengthens.jarPrefix with ⟨more, longer⟩
  apply List.monotone_filter_right
  intro path begins
  rcases Option.any_eq_true .. |>.mp begins with ⟨name, named, begins⟩
  rw [longer, String.toList_append, List.isPrefixOf_iff_prefix] at begins
  rw [Option.any_eq_true]
  exact ⟨name, named, List.isPrefixOf_iff_prefix.mpr ((List.prefix_append _ _).trans begins)⟩

/-- Fewer archives, each of which gives less, give less. -/
theorem foundOf_of_sublist {world : World} {archives fewer : List String}
    (gives : ∀ archive wrappers, outcome rules world archive = .ok wrappers →
      ∃ left, outcome narrowed world archive = .ok left ∧ left.Sublist wrappers)
    (less : fewer.Sublist archives) (complete : failureOf rules world archives = none) :
    failureOf narrowed world fewer = none ∧
      (foundOf narrowed world fewer).Sublist (foundOf rules world archives) := by
  induction less with
  | slnil => exact ⟨rfl, List.Sublist.refl _⟩
  | cons archive less induction =>
      cases outcomes : outcome rules world archive with
      | error error =>
          rw [failureOf_cons_of_error _ outcomes] at complete
          cases complete
      | ok wrappers =>
          rw [failureOf_cons_of_ok _ outcomes] at complete
          rw [foundOf_cons_of_ok _ outcomes]
          exact (induction complete).imp_right List.sublist_append_of_sublist_right
  | cons_cons archive less induction =>
      cases outcomes : outcome rules world archive with
      | error error =>
          rw [failureOf_cons_of_error _ outcomes] at complete
          cases complete
      | ok wrappers =>
          rw [failureOf_cons_of_ok _ outcomes] at complete
          rcases gives archive wrappers outcomes with ⟨left, leaves, sublist⟩
          rw [failureOf_cons_of_ok _ leaves, foundOf_cons_of_ok _ outcomes,
            foundOf_cons_of_ok _ leaves]
          exact (induction complete).imp_right sublist.append

theorem allOrFirstError_streamed_eq_ok_iff {paths : List String} {host : Observed}
    {found : List Wrapper} :
    let archives := Path.withNameBeginning rules.jarPrefix paths
    allOrFirstError (streamed rules paths host) = .ok found ↔
      failureOf rules host.world archives = none ∧ foundOf rules host.world archives = found := by
  dsimp only
  rw [streamed_eq, allOrFirstError_itemsOf, failureOf, foundOf]
  generalize (Path.withNameBeginning rules.jarPrefix paths).map (outcome rules host.world) = outcomes
  cases WrapperStream.firstError? outcomes <;> simp

/-! ## Runs -/

theorem outcomes_scanArchive (rules : Config.Scan) (archives : List String) (host : Observed) :
    outcomes (scanArchive rules) archives host = archives.map (outcome rules host.world) := by
  induction archives generalizing host with
  | nil => rfl
  | cons archive others induction =>
      rw [outcomes, run_scanArchive, induction, List.map_cons]

/-- What the call with this number, counted from 0, of a new stream gives. -/
def given (rules : Config.Scan) (paths : List String) (host : Observed) (number : Nat) :
    Option (Except Error Wrapper) :=
  (answerNumber (scanArchive rules) (Path.withNameBeginning rules.jarPrefix paths) host number).item

theorem given_eq (rules : Config.Scan) (paths : List String) (host : Observed) (number : Nat) :
    given rules paths host number = (streamed rules paths host)[number]? := by
  rw [given, (takes_answerNumber _ _ _ number).item, List.head?_drop, ← List.getElem?_map,
    map_item_entries, outcomes_scanArchive, streamed_eq]

/-- Rules that exclude more methods and types give the same stream without the wrappers of
these, up to the same failure. Rules that lengthen the beginnings succeed where the others
do, with some of the wrappers in the same order. -/
theorem streamed_narrowed (rules narrowed : Config.Scan) (paths : List String)
    (host : Observed) :
    (∀ names types, rules.Excludes narrowed names types →
      let left := (streamed rules paths host).filter (Wrapper.itemStays names types)
      streamed narrowed paths host = left ∧
        ∀ number, given narrowed paths host number = left[number]?) ∧
      (rules.Lengthens narrowed → ∀ found,
        allOrFirstError (streamed rules paths host) = .ok found →
        ∃ left, allOrFirstError (streamed narrowed paths host) = .ok left ∧
          left.Sublist found) := by
  constructor
  · intro names types excludes left
    have same : streamed narrowed paths host = left :=
      streamed_of_excludes excludes paths host
    refine ⟨same, fun number => ?_⟩
    rw [given_eq, same]
  · intro lengthens found succeeds
    rcases allOrFirstError_streamed_eq_ok_iff.mp succeeds with ⟨complete, rfl⟩
    have less := withNameBeginning_of_lengthens lengthens paths
    rcases foundOf_of_sublist (fun _ _ => outcome_of_lengthens lengthens) less complete with
      ⟨completeFewer, sublist⟩
    exact ⟨_, allOrFirstError_streamed_eq_ok_iff.mpr ⟨completeFewer, rfl⟩, sublist⟩

/-! An archive with a class of two wrapped methods, another archive, and one that is missing. -/

def excludingFind : Config.Scan := { methodBlacklist := ["find", "apply"] }

def longerBeginnings : Config.Scan := { jarPrefix := "gradle-a", rootNamespace := "org/gradle/F" }

def variedEntry : StoredEntry :=
  ⟨"org/gradle/Finder.class", false, 0xDD4B365D, Wrapper.variedRaw.bytes⟩

def variedHost : Observed where
  world := ⟨.directory [("gradle-a.jar", .file (archiveOf [variedEntry])),
    ("gradle-b.jar", .file sampleArchive)], [], []⟩
  opened := []

def pickWrapper : Wrapper := { sampleWrapper with functionName := "pick" }

theorem checksum_variedRaw : Crc32.checksum Wrapper.variedRaw.bytes = 0xDD4B365D := by
  let bytes := Wrapper.variedRaw.bytes
  have remainder : (bytes.drop 0).foldl Crc32.byteStep 0xFFFFFFFF = 0x22B4C9A2 :=
    calc (bytes.drop 0).foldl Crc32.byteStep 0xFFFFFFFF
      _ = (bytes.drop 60).foldl Crc32.byteStep 1509141310 := foldl_drop_eq 0 60 (by decide +kernel)
      _ = (bytes.drop 120).foldl Crc32.byteStep 621859230 :=
        foldl_drop_eq 60 60 (by decide +kernel)
      _ = (bytes.drop 180).foldl Crc32.byteStep 2585692280 :=
        foldl_drop_eq 120 60 (by decide +kernel)
      _ = (bytes.drop 240).foldl Crc32.byteStep 3914512227 :=
        foldl_drop_eq 180 60 (by decide +kernel)
      _ = (bytes.drop 300).foldl Crc32.byteStep 204219881 :=
        foldl_drop_eq 240 60 (by decide +kernel)
      _ = 0x22B4C9A2 := by decide +kernel
  exact (checksum_eq remainder).trans (by decide)

theorem ofRecord_variedEntry :
    Wrapper.ofRecord {} ⟨"org/gradle/Finder.class", Wrapper.variedRaw.bytes⟩ =
      .ok [sampleWrapper, pickWrapper] := by
  have selected : Wrapper.ofClass {} Wrapper.variedCompiled = [sampleWrapper, pickWrapper] := by
    cbv
  rw [Wrapper.ofRecord, Wrapper.ofBytes_variedRaw]
  exact congrArg Except.ok selected

/-- What the first archive gives by rules under which its class is selected like this. -/
theorem outcome_variedHost {rules : Config.Scan}
    (candidate : isCandidate rules "org/gradle/Finder.class" = true)
    (same : Wrapper.ofRecord rules = Wrapper.ofRecord {}) :
    outcome rules variedHost.world "gradle-a.jar" = .ok [sampleWrapper, pickWrapper] := by
  have read : variedHost.world.fileContent "gradle-a.jar" = .ok (archiveOf [variedEntry]) := by
    decide +kernel
  have lists : Zip.open? (archiveOf [variedEntry]) = some [variedEntry.found] := by
    decide +kernel
  rw [outcome, read]
  refine scanOf_of_only lists candidate checksum_variedRaw ?_
  rw [same]
  exact ofRecord_variedEntry

theorem streamed_variedHost {paths : List String}
    (scanned : Path.withNameBeginning "gradle-" paths = paths) :
    streamed {} paths variedHost = itemsOf (paths.map (outcome {} variedHost.world)) := by
  rw [streamed_eq]
  exact congrArg (fun paths => itemsOf (paths.map (outcome {} variedHost.world))) scanned

theorem streamed_narrowed_variedHost :
    streamed {} ["gradle-a.jar", "gradle-d.jar"] variedHost =
        [.ok sampleWrapper, .ok pickWrapper, .error (.io (.os .notFound))] ∧
      streamed excludingFind ["gradle-a.jar", "gradle-d.jar"] variedHost =
        [.ok pickWrapper, .error (.io (.os .notFound))] ∧
      given excludingFind ["gradle-a.jar", "gradle-d.jar"] variedHost 0 = some (.ok pickWrapper) ∧
      allOrFirstError (streamed {} ["gradle-a.jar", "gradle-b.jar"] variedHost) =
        .ok [sampleWrapper, pickWrapper, sampleWrapper] ∧
      allOrFirstError (streamed longerBeginnings ["gradle-a.jar", "gradle-b.jar"] variedHost) =
        .ok [sampleWrapper, pickWrapper] ∧
      [sampleWrapper, pickWrapper].Sublist [sampleWrapper, pickWrapper, sampleWrapper] := by
  have first : outcome {} variedHost.world "gradle-a.jar" = .ok [sampleWrapper, pickWrapper] :=
    outcome_variedHost (by decide +kernel) rfl
  have second : outcome {} variedHost.world "gradle-b.jar" = .ok [sampleWrapper] := by
    have read : variedHost.world.fileContent "gradle-b.jar" = .ok sampleArchive := by
      decide +kernel
    rw [outcome, read, scanOf_sampleArchive]
  have missing : outcome {} variedHost.world "gradle-d.jar" = .error (.io (.os .notFound)) := by
    have absent : variedHost.world.fileContent "gradle-d.jar" = .error (.os .notFound) := by
      decide +kernel
    rw [outcome, absent]
    rfl
  have failing : streamed {} ["gradle-a.jar", "gradle-d.jar"] variedHost =
      [.ok sampleWrapper, .ok pickWrapper, .error (.io (.os .notFound))] := by
    rw [streamed_variedHost (by decide +kernel), List.map_cons, List.map_cons, first, missing]
    rfl
  have succeeding : allOrFirstError (streamed {} ["gradle-a.jar", "gradle-b.jar"] variedHost) =
      .ok [sampleWrapper, pickWrapper, sampleWrapper] := by
    rw [streamed_variedHost (by decide +kernel), List.map_cons, List.map_cons, first, second]
    rfl
  have excludes : Config.Scan.Excludes {} excludingFind ["find"] [] :=
    ⟨rfl, rfl, fun name => by simp [excludingFind, or_comm], fun name => by simp [excludingFind]⟩
  have lengthens : Config.Scan.Lengthens {} longerBeginnings :=
    ⟨⟨"a", rfl⟩, ⟨"F", rfl⟩, rfl, rfl⟩
  have kept : [.ok sampleWrapper, .ok pickWrapper, .error (.io (.os .notFound))].filter
      (Wrapper.itemStays ["find"] []) = [.ok pickWrapper, .error (.io (.os .notFound))] := by
    decide +kernel
  have less := (streamed_narrowed {} excludingFind ["gradle-a.jar", "gradle-d.jar"] variedHost).1
    ["find"] [] excludes
  rw [failing, kept] at less
  rcases (streamed_narrowed {} longerBeginnings ["gradle-a.jar", "gradle-b.jar"] variedHost).2
    lengthens _ succeeding with ⟨left, leaves, fewer⟩
  have computed : allOrFirstError (streamed longerBeginnings ["gradle-a.jar", "gradle-b.jar"]
      variedHost) = .ok [sampleWrapper, pickWrapper] := by
    have scanned : Path.withNameBeginning longerBeginnings.jarPrefix
        ["gradle-a.jar", "gradle-b.jar"] = ["gradle-a.jar"] := by
      decide +kernel
    have chosen : outcome longerBeginnings variedHost.world "gradle-a.jar" =
        .ok [sampleWrapper, pickWrapper] :=
      outcome_variedHost (by decide +kernel) (ofRecord_congr rfl rfl)
    rw [streamed_eq, scanned, List.map_singleton, chosen]
    rfl
  rw [computed] at leaves
  cases leaves
  exact ⟨failing, less.1, less.2 0, succeeding, computed, fewer⟩

end Generation

end TypeTokenWrappers
