import TypeTokenWrappers.Proofs.Generation.OtherEntries

/-! # What a failed run leaves behind

The archives are read one after the other, each as a whole, and what one of them gives is
written before the next one is opened. So the output file holds what the archives in front
of the failing one gave: nothing of that archive, and nothing that it held before. -/

namespace TypeTokenWrappers.Generation

open WrapperStream (opened opened_cons_of_ok opened_cons_of_error)

variable {rules : Config.Scan} {host : Observed} {archive : String}

/-! ## Archives that are read, and archives that fail -/

/-- Whether the file of a candidate is that of a class. -/
def Compiles (record : ClassRecord) (compiled : CompiledClass) : Prop :=
  CompiledClass.ofBytes record.bytes = .ok compiled

/-- Whether an archive can be read, and which classes its candidates are, all of which are
well-formed. -/
def Reads (rules : Config.Scan) (host : Observed) (archive : String)
    (classes : List CompiledClass) : Prop :=
  ∃ records, ((selectClasses rules archive : Program (StateM Observed) _).on host).1 =
    .ok records ∧ List.Forall₂ Compiles records classes

/-- Why an archive fails: it cannot be read, or one of its candidates is no class file, the
first such behind `records`. -/
inductive Fails (rules : Config.Scan) (host : Observed) (archive : String) : Error → Prop where
  | unread {error : Error}
    (unread : ((selectClasses rules archive : Program (StateM Observed) _).on host).1 =
      .error error) : Fails rules host archive error
  | malformed {records others : List ClassRecord} {record : ClassRecord}
    {classes : List CompiledClass} {error : ClassFormatError}
    (selected : ((selectClasses rules archive : Program (StateM Observed) _).on host).1 =
      .ok (records ++ record :: others))
    (compile : List.Forall₂ Compiles records classes)
    (malformed : CompiledClass.ofBytes record.bytes = .error error) :
    Fails rules host archive (.classFormat record.entry error.message)

theorem compile_or_malformed (records : List ClassRecord) :
    (∃ classes, List.Forall₂ Compiles records classes) ∨
      ∃ front record others classes error, records = front ++ record :: others ∧
        List.Forall₂ Compiles front classes ∧
        CompiledClass.ofBytes record.bytes = .error error := by
  induction records with
  | nil => exact .inl ⟨[], .nil⟩
  | cons first records induction =>
      cases compiles : CompiledClass.ofBytes first.bytes with
      | error error => exact .inr ⟨[], first, records, [], error, rfl, .nil, compiles⟩
      | ok compiled =>
          rcases induction with ⟨classes, compile⟩ |
            ⟨front, record, others, classes, error, split, compile, malformed⟩
          · exact .inl ⟨compiled :: classes, .cons compiles compile⟩
          · refine .inr ⟨first :: front, record, others, compiled :: classes, error, ?_,
              .cons compiles compile, malformed⟩
            rw [split, List.cons_append]

/-- Each archive is read or fails. -/
theorem reads_or_fails (rules : Config.Scan) (host : Observed) (archive : String) :
    (∃ classes, Reads rules host archive classes) ∨ ∃ error, Fails rules host archive error := by
  cases selected : ((selectClasses rules archive : Program (StateM Observed) _).on host).1 with
  | error error => exact .inr ⟨error, .unread selected⟩
  | ok records =>
      rcases compile_or_malformed records with ⟨classes, compile⟩ |
        ⟨front, record, others, classes, error, split, compile, malformed⟩
      · exact .inl ⟨classes, records, selected, compile⟩
      · exact .inr ⟨_, .malformed (selected.trans (congrArg Except.ok split)) compile malformed⟩

theorem wrappersOfRecords_cons {record : ClassRecord} {compiled : CompiledClass}
    (compiles : CompiledClass.ofBytes record.bytes = .ok compiled) (others : List ClassRecord) :
    wrappersOfRecords rules (record :: others) =
      (wrappersOfRecords rules others).map (Wrapper.ofClass rules compiled ++ ·) := by
  rw [wrappersOfRecords, wrappersOfRecords, List.mapM_cons, Wrapper.ofRecord, compiles]
  cases others.mapM (Wrapper.ofRecord rules) <;> rfl

theorem wrappersOfRecords_append {records : List ClassRecord} {classes : List CompiledClass}
    (compile : List.Forall₂ Compiles records classes) (others : List ClassRecord) :
    wrappersOfRecords rules (records ++ others) =
      (wrappersOfRecords rules others).map (classes.flatMap (Wrapper.ofClass rules) ++ ·) := by
  induction compile with
  | nil =>
      change wrappersOfRecords rules others = _
      cases wrappersOfRecords rules others <;> rfl
  | cons compiles others induction =>
      rw [List.cons_append, wrappersOfRecords_cons compiles, induction, List.flatMap_cons]
      cases wrappersOfRecords rules _ with
      | error error => rfl
      | ok wrappers => exact congrArg Except.ok (List.append_assoc _ _ wrappers).symm

theorem wrappersOfRecords_of_malformed {record : ClassRecord} {error : ClassFormatError}
    (malformed : CompiledClass.ofBytes record.bytes = .error error) (others : List ClassRecord) :
    wrappersOfRecords rules (record :: others) =
      .error (.classFormat record.entry error.message) := by
  rw [wrappersOfRecords, List.mapM_cons, Wrapper.ofRecord, malformed]
  rfl

theorem outcome_eq_bind (rules : Config.Scan) (host : Observed) (archive : String) :
    outcome rules host.world archive =
      ((selectClasses rules archive : Program (StateM Observed) _).on host).1 >>=
        wrappersOfRecords rules := by
  rw [← wrappersOfArchive_on_eq_bind]
  exact (congrArg Prod.fst (run_scanArchive rules archive host)).symm

theorem Reads.outcome_eq {classes : List CompiledClass}
    (reads : Reads rules host archive classes) :
    outcome rules host.world archive = .ok (classes.flatMap (Wrapper.ofClass rules)) := by
  rcases reads with ⟨records, selected, compile⟩
  have whole := @wrappersOfRecords_append rules _ _ compile []
  rw [List.append_nil] at whole
  rw [outcome_eq_bind, selected]
  apply whole.trans
  exact congrArg Except.ok (List.append_nil _)

theorem Fails.outcome_eq {error : Error} (fails : Fails rules host archive error) :
    outcome rules host.world archive = .error error := by
  rw [outcome_eq_bind]
  cases fails with
  | unread unread =>
      rw [unread]
      rfl
  | malformed selected compile malformed =>
      rw [selected]
      apply (wrappersOfRecords_append compile _).trans
      rw [wrappersOfRecords_of_malformed malformed]
      rfl

/-! ## The run -/

theorem scan_of_fails {before : List String} {classes : List (List CompiledClass)}
    {failing : String} {error : Error} (reads : List.Forall₂ (Reads rules host) before classes)
    (fails : Fails rules host failing error) (after : List String) :
    foundOf rules host.world (before ++ failing :: after) =
        classes.flatten.flatMap (Wrapper.ofClass rules) ∧
      failureOf rules host.world (before ++ failing :: after) = some error ∧
      opened (outcome rules host.world) (before ++ failing :: after) = before ++ [failing] := by
  induction reads with
  | nil =>
      have stops := fails.outcome_eq
      rw [List.nil_append, foundOf_cons_of_error _ stops, failureOf_cons_of_error _ stops,
        opened_cons_of_error stops]
      exact ⟨rfl, rfl, rfl⟩
  | cons first others induction =>
      rcases induction with ⟨sameFound, sameFailure, sameOpened⟩
      have gives := first.outcome_eq
      rw [List.cons_append, foundOf_cons_of_ok _ gives, failureOf_cons_of_ok _ gives,
        opened_cons_of_ok gives, sameFound, sameFailure, sameOpened, List.flatten_cons,
        List.flatMap_append]
      exact ⟨rfl, rfl, rfl⟩

/-- Where an archive fails, the file holds what the archives in front of it gave. `made` is
the host when the file was made, before any archive is opened; what could be read of the
archives up to then is still read. No archive behind the failing one is opened, and no other
file is changed. -/
theorem generate_leaves (config : Config) (start made : Observed)
    (jars before after : List String) (failing : String) (classes : List (List CompiledClass))
    (error : Error)
    (classpath : ((config.jarPaths : Program (StateM Observed) _).on start).1 = .ok jars)
    (listed : config.scanned jars = before ++ failing :: after)
    (ran : (prepare config.output.path).on start = (.ok (), made))
    (apart : ∀ archive ∈ config.scanned jars, ¬ made.world.SameFile archive config.output.path)
    (reads : List.Forall₂ (Reads config.scan made) before classes)
    (fails : Fails config.scan made failing error) :
    ∃ left, (generate config : Program (StateM Observed) _).on start = (.error error, left) ∧
      left.world.fileContent config.output.path = .ok (Utf8.encodeString
        (SourceFile.header config.output.package ++
          String.join ((classes.flatten.flatMap (Wrapper.ofClass config.scan)).map
            fun wrapper => "\n" ++ wrapper.render ++ "\n"))) ∧
      left.opened = start.opened ++ (before ++ [failing]) ∧
      (∀ path, ¬ made.world.SameFile path config.output.path →
        left.world.fileContent path = made.world.fileContent path) ∧
      ∀ archive ∈ config.scanned jars, ∀ content,
        start.world.fileContent archive = .ok content →
        made.world.fileContent archive = .ok content := by
  rcases prepared_of_prepare ran with ⟨place, prepared⟩
  have elsewhere := prepared.elsewhere apart
  rcases scan_of_fails reads fails after with ⟨sameFound, sameFailure, sameOpened⟩
  rcases writeFile_on_of_made config.output.package ran prepared elsewhere with
    ⟨left, wrote, opened, writes⟩
  rw [← Config.scanned, listed, sameFailure] at wrote
  rw [← Config.scanned, listed, sameOpened] at opened
  rw [← Config.scanned, listed, sameFound] at writes
  refine ⟨left, generate_on_of_unwritten classpath wrote, ?_, opened, ?_, ?_⟩
  · have holds := writes.fileContent_of_locate (prepared.writable.locate_of_writes writes)
    rwa [content_eq_encodeString, List.map_map] at holds
  · intro path apart
    apply writes.fileContent_eq prepared.empty
    exact fun leads => apart ⟨place, leads, prepared.writable.locate⟩
  · intro archive member content read
    exact prepared.others archive content read (elsewhere archive member)

/-! An archive that holds a class and, behind it, an entry that is none. Archives with a
class stand in front of it and behind it. -/

def brokenEntry : StoredEntry := ⟨"org/gradle/Lost.class", false, 0, []⟩

def brokenRecord : ClassRecord := ⟨"org/gradle/Lost.class", []⟩

def brokenHost : Observed where
  world := ⟨.directory [("gradle-a.jar", .file sampleArchive),
    ("gradle-b.jar", .file (archiveOf [sampleClassEntry, brokenEntry])),
    ("gradle-c.jar", .file sampleArchive), ("out.kt", .file [1, 2, 3])], [], []⟩
  opened := []

def brokenConfig : Config := configOf ["gradle-a.jar", "gradle-b.jar", "gradle-c.jar"] "out.kt"

/-- The host when the output file was made. -/
def brokenMade : Observed := ((prepare "out.kt").on brokenHost).2

theorem selectClasses_broken {host : Observed} {archive : String}
    (read : host.world.fileContent archive =
      .ok (archiveOf [sampleClassEntry, brokenEntry])) :
    ((selectClasses {} archive : Program (StateM Observed) _).on host).1 =
      .ok [sampleRecord, brokenRecord] := by
  have lists : Zip.open? (archiveOf [sampleClassEntry, brokenEntry]) =
      some [sampleClassEntry.found, brokenEntry.found] := by
    decide +kernel
  have opens : OthersOpen {} [sampleClassEntry.found, brokenEntry.found] := by
    intro entry member _
    simp only [List.mem_cons, List.not_mem_nil, or_false] at member
    rcases member with rfl | rfl <;> rfl
  have empty : brokenEntry.found.reading = readingOf brokenRecord :=
    StoredEntry.reading_found rfl (by decide +kernel)
  have candidates : candidatesOf {} [sampleClassEntry.found, brokenEntry.found] =
      [sampleRecord, brokenRecord].map readingOf := by
    rw [candidatesOf_cons_of_candidate (by decide +kernel),
      candidatesOf_cons_of_candidate (by decide +kernel), reading_sampleClassEntry, empty]
    rfl
  exact selectClasses_of_records read lists opens candidates

theorem generate_leaves_brokenHost :
    ∃ left, (generate brokenConfig : Program (StateM Observed) _).on brokenHost =
        (.error (.classFormat "org/gradle/Lost.class" "unexpected end of class file at offset 0"),
          left) ∧
      left.world.fileContent "out.kt" =
        .ok (Utf8.encodeString
          (SourceFile.header "p" ++ ("\n" ++ sampleWrapper.render ++ "\n"))) ∧
      left.opened = ["gradle-a.jar", "gradle-b.jar"] := by
  have ran : (prepare "out.kt").on brokenHost = (.ok (), brokenMade) :=
    Program.on_eq (by decide +kernel)
  have listed : brokenConfig.scanned ["gradle-a.jar", "gradle-b.jar", "gradle-c.jar"] =
      ["gradle-a.jar"] ++ "gradle-b.jar" :: ["gradle-c.jar"] := by
    decide +kernel
  have output : brokenMade.world.locate "out.kt" = .ok ["out.kt"] := by
    decide +kernel
  have apart : ∀ archive ∈ brokenConfig.scanned ["gradle-a.jar", "gradle-b.jar", "gradle-c.jar"],
      ¬ brokenMade.world.SameFile archive "out.kt" := by
    rw [listed]
    intro archive member
    have place : brokenMade.world.locate archive = .ok [archive] ∧ archive ≠ "out.kt" := by
      simp only [List.mem_append, List.mem_cons, List.not_mem_nil, or_false] at member
      rcases member with rfl | rfl | rfl <;> decide +kernel
    exact World.not_sameFile place.1 output (by simpa using place.2)
  have readA : brokenMade.world.fileContent "gradle-a.jar" = .ok sampleArchive := by
    decide +kernel
  have readB : brokenMade.world.fileContent "gradle-b.jar" =
      .ok (archiveOf [sampleClassEntry, brokenEntry]) := by
    decide +kernel
  have compiles : Compiles sampleRecord Wrapper.sampleCompiled := Wrapper.ofBytes_sampleRaw
  have listsA : ((selectClasses {} "gradle-a.jar" : Program (StateM Observed) _).on
      brokenMade).1 = .ok [sampleRecord] :=
    selectClasses_of_records readA open?_sampleArchive othersOpen_sampleClassEntry
      candidatesOf_sampleClassEntry
  have reads : Reads {} brokenMade "gradle-a.jar" [Wrapper.sampleCompiled] :=
    ⟨[sampleRecord], listsA, .cons compiles .nil⟩
  have malformed : CompiledClass.ofBytes brokenRecord.bytes = .error ⟨.unexpectedEnd, 0⟩ := by
    decide +kernel
  have message : ClassFormatError.message ⟨.unexpectedEnd, 0⟩ =
      "unexpected end of class file at offset 0" := by
    decide +kernel
  have fails : Fails {} brokenMade "gradle-b.jar" (.classFormat brokenRecord.entry
      (ClassFormatError.message ⟨.unexpectedEnd, 0⟩)) :=
    .malformed (selectClasses_broken readB) (.cons compiles .nil) malformed
  have selected : [[Wrapper.sampleCompiled]].flatten.flatMap (Wrapper.ofClass {}) =
      [sampleWrapper] := by
    simp [ofClass_sampleCompiled]
  rcases generate_leaves brokenConfig brokenHost brokenMade _ _ _ _ _ _ rfl listed ran apart
    (.cons reads .nil) fails with ⟨left, failed, file, opened, _⟩
  have scan : brokenConfig.scan = {} := rfl
  rw [message] at failed
  rw [scan, selected, List.map_singleton, String.join_cons, String.join_nil,
    String.append_empty] at file
  exact ⟨left, failed, file, opened⟩

end TypeTokenWrappers.Generation
