import SerialSuite.Endpoints

/-!
Opening the link call by call. The sink is opened, then the source is looked up, emptied and opened,
and the first call that fails ends this; every call leaves a tree behind, whether it succeeds or
not. Emptying a file leads no path anywhere else (`locate_truncate`), so that the call behind it
finds the same file, and cannot fail. Opening is thus all or nothing (`openInCalls_atomic`).
-/

namespace SerialSuite

/-- What a node is opened for. -/
inductive Purpose where
  | reading
  | writing
  /-- Writing, with the content thrown away. -/
  | replacing
  deriving DecidableEq, Repr

/-- Why a node is not opened for a purpose, if it is not. -/
abbrev Refusals := Purpose → Node → Option IoError

namespace FileTree

/-- Directories are not written to. -/
def refusals : Refusals
  | .reading, _ => none
  | _, .directory => some .isDirectory
  | _, _ => none

section Calls
variable (refuses : Refusals) (t : FileTree)

/-- Where a path leads, if what is there is opened for the purpose. -/
def find (purpose : Purpose) (text : String) : Except IoError Path :=
  match t.locate text with
  | .error cause => .error cause
  | .ok p =>
    match (t.node? p).bind (refuses purpose) with
    | some cause => .error cause
    | none => .ok p

/-- Opens what a path leads to. No purpose makes what is not there. -/
def openFor (purpose : Purpose) (text : String) : Except IoError Path × FileTree :=
  match t.find refuses purpose text with
  | .error cause => (.error cause, t)
  | .ok p => (.ok p, if purpose = .replacing then t.truncate p else t)

/-- Whether a path leads to a regular file. -/
def isFile (text : String) : Except IoError Bool :=
  (t.locate text).map fun p =>
    match t.node? p with
    | some (.file _) => true
    | _ => false

/-- Empties what a path leads to if it is a regular file. -/
def clear (text : String) : Except IoError Unit × FileTree :=
  match t.isFile text with
  | .error cause => (.error cause, t)
  | .ok false => (.ok (), t)
  | .ok true =>
    match t.openFor refuses .replacing text with
    | (.error cause, t) => (.error cause, t)
    | (.ok _, t) => (.ok (), t)

/-- Opens a path for reading what comes from now on. -/
def openSource (text : String) : Except IoError Path × FileTree :=
  match t.clear refuses text with
  | (.error cause, t) => (.error cause, t)
  | (.ok (), t) => t.openFor refuses .reading text

/-- Where both ends are, once every call on them has succeeded, and what the calls leave behind. -/
def openInCalls (sink source : String) : Except RunError (Path × Path) × FileTree :=
  match t.openFor refuses .writing sink with
  | (.error cause, t) => (.error (.opening .sink sink cause), t)
  | (.ok sinkAt, t) =>
    match t.openSource refuses source with
    | (.error cause, t) => (.error (.opening .source source cause), t)
    | (.ok sourceAt, t) => (.ok (sinkAt, sourceAt), t)

/-- The tree's own calls. -/
def calls : Endpoints.Calls (StateM FileTree) Path where
  openSink text t := t.openFor refuses .writing text
  clear text t := t.clear refuses text
  openSource text t := t.openFor refuses .reading text

/-- The program's way to open both ends, whoever answers its calls, is this one on a tree. -/
theorem openBy_calls (sink source : String) :
    (Endpoints.openBy (calls refuses) sink source).run t = t.openInCalls refuses sink source := by
  simp only [StateT.run, Endpoints.openBy, bind, StateT.bind, calls, openInCalls, openSource]
  rcases t.openFor refuses .writing sink with ⟨_ | sinkAt, t₁⟩
  · rfl
  simp only [StateT.bind, bind]
  rcases t₁.clear refuses source with ⟨_ | ⟨⟨⟩⟩, t₂⟩
  · rfl
  simp only [StateT.bind, bind]
  rcases t₂.openFor refuses .reading source with ⟨_ | sourceAt, t₃⟩ <;> rfl

/-- The path leads to `p`, and what is there is opened for the purpose. -/
structure Opens (purpose : Purpose) (text : String) (p : Path) : Prop where
  located : t.locate text = .ok p
  granted : ∀ n, t.node? p = some n → refuses purpose n = none

/-- Every node but the root is in a directory, and so is what relative paths lead to. -/
structure Sound : Prop where
  parents : ∀ p n, (p, n) ∈ t.nodes → t.node? p.dropLast = some .directory
  inside : t.node? t.current = some .directory

theorem Sound.above {t : FileTree} (sound : t.Sound) {here : Path}
    (start : ∃ n, t.node? here = some n) : ∃ n, t.node? here.dropLast = some n := by
  obtain ⟨n, found⟩ := start
  unfold node? at found
  split at found
  · rename_i root
    exact ⟨.directory, by rw [root]; rfl⟩
  · obtain ⟨before, after, split, _⟩ := List.lookup_eq_some_iff.mp found
    exact ⟨.directory, sound.parents here n (by simp [split])⟩

end Calls

/-! The tree behind a truncation. -/

section Truncation
variable {t t' : FileTree}

/-- The trees differ in the content of files at most. -/
def Alike (t t' : FileTree) : Prop :=
  ∀ q, t'.node? q = t.node? q ∨
    ∃ data data', t.node? q = some (.file data) ∧ t'.node? q = some (.file data')

theorem lookup_map_update (nodes : List (Path × Node)) (p q : Path) (n : Node) :
    (nodes.map fun (q, old) => (q, if q = p then n else old)).lookup q =
      (nodes.lookup q).map fun old => if q = p then n else old := by
  induction nodes with
  | nil => rfl
  | cons entry rest ih =>
    obtain ⟨x, old⟩ := entry
    rw [List.map_cons, List.lookup_cons, List.lookup_cons]
    by_cases same : q = x
    · simp [same]
    · have : (q == x) = false := beq_eq_false_iff_ne.mpr same
      simp only [this, ih]

theorem node?_update (t : FileTree) {p : Path} (below : p ≠ []) (n : Node) (q : Path) :
    (t.update p n).node? q = (t.node? q).map fun old => if q = p then n else old := by
  unfold node? update
  split
  · rename_i root
    simp [root, Ne.symm below]
  · exact lookup_map_update t.nodes p q n

theorem node?_truncate_of_file (t : FileTree) {p : Path} {data : Bytes}
    (here : t.node? p = some (.file data)) (q : Path) :
    (t.truncate p).node? q = if q = p then some (.file []) else t.node? q := by
  have below : p ≠ [] := by
    rintro rfl
    simp [node?] at here
  have emptied : t.truncate p = t.update p (.file []) := by simp only [truncate, here]
  rw [emptied, node?_update t below]
  by_cases same : q = p
  · simp [same, here]
  · simp [same]

theorem truncate_eq_self {p : Path} (other : ∀ data, t.node? p ≠ some (.file data)) :
    t.truncate p = t := by
  unfold truncate
  split
  · rename_i data here
    exact absurd here (other data)
  · rfl

theorem node?_truncate_of_ne (t : FileTree) {p q : Path} (apart : q ≠ p) :
    (t.truncate p).node? q = t.node? q := by
  by_cases file : ∃ data, t.node? p = some (.file data)
  · obtain ⟨data, here⟩ := file
    rw [node?_truncate_of_file t here, if_neg apart]
  · rw [truncate_eq_self (not_exists.mp file)]

theorem alike_truncate (t : FileTree) (p : Path) : Alike t (t.truncate p) := by
  intro q
  by_cases same : q = p
  · subst same
    by_cases file : ∃ data, t.node? q = some (.file data)
    · obtain ⟨data, here⟩ := file
      exact .inr ⟨data, [], here, by rw [node?_truncate_of_file t here, if_pos rfl]⟩
    · exact .inl (by rw [truncate_eq_self (not_exists.mp file)])
  · exact .inl (node?_truncate_of_ne t same)

theorem paths_truncate (t : FileTree) (p : Path) :
    (t.truncate p).nodes.map Prod.fst = t.nodes.map Prod.fst := by
  unfold truncate
  split
  · simp [update]
  · rfl

theorem current_truncate (t : FileTree) (p : Path) : (t.truncate p).current = t.current := by
  unfold truncate
  split <;> rfl

/-- A walk asks for directories and links, never for what a file holds. -/
theorem walk_congr (alike : Alike t t') (links : Nat) (here : Path) (todo : List String) :
    t'.walk links here todo = t.walk links here todo := by
  have kept {q : Path} {n : Option Node} (found : t.node? q = n)
      (other : ∀ data, n ≠ some (.file data)) : t'.node? q = n := by
    obtain same | ⟨data, _, old, _⟩ := alike q
    · rw [same, found]
    · exact absurd (found.symm.trans old) (other data)
  have directory (q : Path) : t'.node? q = some .directory ↔ t.node? q = some .directory := by
    obtain same | ⟨data, data', old, new⟩ := alike q
    · rw [same]
    · simp [old, new]
  have within {q : Path} (inside : ¬ t.node? q ≠ some .directory) :
      ¬ t'.node? q ≠ some .directory := mt (mt (directory q).mpr) inside
  fun_induction walk t links here todo with
  | case1 => rw [walk]
  | case2 links here name rest outside => rw [walk, if_pos (mt (directory here).mp outside)]
  | case3 links here name rest inside dot ih =>
    rw [walk, if_neg (within inside), if_pos dot, ih]
  | case4 links here rest inside dot ih =>
    rw [walk, if_neg (within inside), if_neg dot, if_pos rfl, ih]
  | case5 links here name rest inside dot up long =>
    rw [walk, if_neg (within inside), if_neg dot, if_neg up, if_pos long]
  | case6 links here name rest inside dot up long missing =>
    rw [walk, if_neg (within inside), if_neg dot, if_neg up, if_neg long, kept missing (by simp)]
  | case7 here name rest inside dot up long target found =>
    rw [walk, if_neg (within inside), if_neg dot, if_neg up, if_neg long, kept found (by simp)]
  | case8 here name rest inside dot up long target found links ih =>
    rw [walk, if_neg (within inside), if_neg dot, if_neg up, if_neg long, kept found (by simp)]
    exact ih
  | case9 links here name rest inside dot up long n other found ih =>
    rw [walk, if_neg (within inside), if_neg dot, if_neg up, if_neg long]
    obtain same | ⟨_, _, _, new⟩ := alike (here ++ [name])
    · rw [same, found]
      cases n with
      | link target => exact absurd rfl (other target)
      | _ => exact ih
    · rw [new]
      exact ih

theorem locate_truncate (t : FileTree) (p : Path) (text : String) :
    (t.truncate p).locate text = t.locate text := by
  unfold locate
  rw [walk_congr (alike_truncate t p), current_truncate]

end Truncation

/-! What the calls come to. -/

section Closed
variable {refuses : Refusals} {t : FileTree} {purpose : Purpose} {text : String} {p : Path}

theorem find_eq_ok_iff : t.find refuses purpose text = .ok p ↔ t.Opens refuses purpose text p := by
  unfold find
  constructor
  · intro found
    split at found
    · cases found
    · rename_i q located
      split at found
      · cases found
      · rename_i granted
        cases found
        exact ⟨located, Option.bind_eq_none_iff.mp granted⟩
  · rintro ⟨located, granted⟩
    simp only [located, Option.bind_eq_none_iff.mpr granted]

theorem opens_file (files : ∀ purpose data, refuses purpose (.file data) = none)
    {data : Bytes} (located : t.locate text = .ok p) (here : t.node? p = some (.file data)) :
    t.Opens refuses purpose text p := by
  refine ⟨located, fun n found => ?_⟩
  rw [here] at found
  obtain rfl := Option.some.inj found
  exact files purpose data

theorem not_opens_of_find_error {cause : IoError}
    (found : t.find refuses purpose text = .error cause) (p : Path) :
    ¬ t.Opens refuses purpose text p := by
  intro opens
  cases found.symm.trans (find_eq_ok_iff.mpr opens)

/-- An emptied file is opened for what it was opened for before. -/
theorem find_truncate (files : ∀ purpose data, refuses purpose (.file data) = none) (q : Path) :
    (t.truncate q).find refuses purpose text = t.find refuses purpose text := by
  unfold find
  rw [locate_truncate]
  cases t.locate text with
  | error cause => rfl
  | ok p =>
    have refused : ((t.truncate q).node? p).bind (refuses purpose) =
        (t.node? p).bind (refuses purpose) := by
      obtain same | ⟨data, data', old, new⟩ := alike_truncate t q p
      · rw [same]
      · rw [old, new, Option.bind_some, Option.bind_some, files, files]
    simp only [refused]

/-- Emptying a source fails only where there is none. -/
theorem clear_eq (files : ∀ purpose data, refuses purpose (.file data) = none) :
    t.clear refuses text =
      match t.locate text with
      | .error cause => (.error cause, t)
      | .ok p => (.ok (), t.truncate p) := by
  cases located : t.locate text with
  | error cause => simp only [clear, isFile, located, Except.map]
  | ok p =>
    by_cases file : ∃ data, t.node? p = some (.file data)
    · obtain ⟨data, here⟩ := file
      have found : t.find refuses .replacing text = .ok p :=
        find_eq_ok_iff.mpr (opens_file files located here)
      simp only [clear, isFile, located, Except.map, here, openFor, found, if_true]
    · have other := not_exists.mp file
      simp only [truncate_eq_self other]
      cases here : t.node? p with
      | none => simp only [clear, isFile, located, Except.map, here]
      | some n =>
        cases n with
        | file data => exact absurd here (other data)
        | _ => simp only [clear, isFile, located, Except.map, here]

/-- Opening the source is emptying what it leads to and opening that, or it is nothing. -/
theorem openSource_eq (files : ∀ purpose data, refuses purpose (.file data) = none) :
    t.openSource refuses text =
      match t.find refuses .reading text with
      | .error cause => (.error cause, t)
      | .ok p => (.ok p, t.truncate p) := by
  rw [openSource, clear_eq files]
  cases located : t.locate text with
  | error cause => simp only [find, located]
  | ok p =>
    simp only [openFor, find_truncate files, reduceCtorEq, if_false]
    cases found : t.find refuses .reading text with
    | error cause =>
      -- what is not opened is no file, and is left as it is
      have other (data : Bytes) (here : t.node? p = some (.file data)) : False :=
        not_opens_of_find_error found p (opens_file files located here)
      rw [truncate_eq_self other]
    | ok q =>
      have same := (find_eq_ok_iff.mp found).located
      rw [located] at same
      rw [Except.ok.inj same]

theorem openInCalls_eq (files : ∀ purpose data, refuses purpose (.file data) = none)
    (sink source : String) :
    t.openInCalls refuses sink source =
      match t.find refuses .writing sink with
      | .error cause => (.error (.opening .sink sink cause), t)
      | .ok sinkAt =>
        match t.find refuses .reading source with
        | .error cause => (.error (.opening .source source cause), t)
        | .ok sourceAt => (.ok (sinkAt, sourceAt), t.truncate sourceAt) := by
  cases found : t.find refuses .writing sink with
  | error cause => simp only [openInCalls, openFor, found]
  | ok sinkAt =>
    simp only [openInCalls, openFor, found, reduceCtorEq, if_false, openSource_eq files]
    cases t.find refuses .reading source <;> rfl

/-- Opening the ends call by call gives what opening them at once gives. -/
theorem openInCalls_refusals (t : FileTree) (sink source : String) :
    t.openInCalls refusals sink source =
      match Endpoints.openIn t sink source with
      | .error e => (.error e, t)
      | .ok ends => (.ok (ends.sink, ends.source), ends.tree) := by
  have writing : t.find refusals .writing sink = Endpoints.findSink t sink := by
    unfold find Endpoints.findSink
    cases t.locate sink with
    | error cause => rfl
    | ok p => cases here : t.node? p with
      | none => simp [here, pure, Except.pure, bind, Except.bind]
      | some n =>
        cases n <;> simp [here, refusals, pure, Except.pure, bind, Except.bind, throw, throwThe,
          MonadExceptOf.throw]
  have reading : t.find refusals .reading source = t.locate source := by
    unfold find
    cases t.locate source with
    | error cause => rfl
    | ok p => cases here : t.node? p <;> simp [refusals, here]
  rw [openInCalls_eq (fun purpose data => by cases purpose <;> rfl), writing, reading]
  unfold Endpoints.openIn
  cases Endpoints.findSink t sink with
  | error cause => rfl
  | ok sinkAt => cases t.locate source <;> rfl

/-- What is opened in a sound tree is there. -/
theorem Opens.exists_node (opens : t.Opens refuses purpose text p) (sound : t.Sound) :
    ∃ n, t.node? p = some n := by
  have walked (links : Nat) (here : Path) (todo : List String) {p : Path}
      (start : ∃ n, t.node? here = some n) (led : t.walk links here todo = .ok p) :
      ∃ n, t.node? p = some n := by
    fun_induction walk t links here todo with
    | case1 =>
      cases led
      exact start
    | case3 links here name rest inside dot ih => exact ih start led
    | case4 links here rest inside dot ih => exact ih (sound.above start) led
    | case8 here name rest inside dot up long target found links ih =>
      refine ih ?_ led
      split
      · exact ⟨.directory, if_pos rfl⟩
      · exact start
    | case9 links here name rest inside dot up long n other found ih => exact ih ⟨n, found⟩ led
    | _ => cases led
  have located := opens.located
  unfold locate at located
  split at located
  · cases located
  split at located
  · cases located
  split at located
  · cases located
  refine walked _ _ _ ?_ located
  split
  · exact ⟨.directory, if_pos rfl⟩
  · exact ⟨.directory, sound.inside⟩

end Closed

/-- What opening both ends does to a tree. -/
structure Atomic (refuses : Refusals) (t : FileTree) (sink source : String)
    (result : Except RunError (Path × Path)) (t' : FileTree) : Prop where
  /-- No path comes to be, and none leads anywhere else. -/
  paths : t'.nodes.map Prod.fst = t.nodes.map Prod.fst ∧ ∀ text, t'.locate text = t.locate text
  sinkKept : ∀ p, t.locate sink = .ok p → t'.node? p = t.node? p
  /-- A source that is a regular file is emptied once the sink is open. -/
  emptied : ∀ sinkAt p data, t.Opens refuses .writing sink sinkAt → t.locate source = .ok p →
    t.node? p = some (.file data) → t'.node? p = some (.file [])
  /-- Nothing else changes. -/
  others : ∀ p, t'.node? p ≠ t.node? p → (∃ sinkAt, t.Opens refuses .writing sink sinkAt) ∧
    t.locate source = .ok p ∧ ∃ data, t.node? p = some (.file data)
  opened : ∀ sinkAt sourceAt, result = .ok (sinkAt, sourceAt) ↔
    t.Opens refuses .writing sink sinkAt ∧ t.Opens refuses .reading source sourceAt
  failed : ∀ e, result = .error e → t' = t
  /-- The sink is blamed as soon as it cannot be opened, the source if only that cannot. -/
  sinkBlamed : (∀ p, ¬ t.Opens refuses .writing sink p) → ∃ cause,
    t.find refuses .writing sink = .error cause ∧ result = .error (.opening .sink sink cause)
  sourceBlamed : ∀ sinkAt, t.Opens refuses .writing sink sinkAt →
    (∀ p, ¬ t.Opens refuses .reading source p) → ∃ cause,
      t.find refuses .reading source = .error cause ∧
        result = .error (.opening .source source cause)

section Atomic
variable {refuses : Refusals} {t : FileTree} {sink source : String} {cause : IoError}

theorem atomic_of_sink_error (found : t.find refuses .writing sink = .error cause) :
    Atomic refuses t sink source (.error (.opening .sink sink cause)) t := by
  have closed := not_opens_of_find_error found
  exact
    { paths := ⟨rfl, fun text => rfl⟩
      sinkKept := fun p located => rfl
      emptied := fun sinkAt _ _ opens => absurd opens (closed sinkAt)
      others := fun p changed => absurd rfl changed
      opened := fun sinkAt sourceAt => ⟨nofun, fun opens => absurd opens.1 (closed sinkAt)⟩
      failed := fun e failed => rfl
      sinkBlamed := fun _ => ⟨cause, found, rfl⟩
      sourceBlamed := fun sinkAt opens => absurd opens (closed sinkAt) }

theorem atomic_of_source_error (files : ∀ purpose data, refuses purpose (.file data) = none)
    {sinkAt : Path} (sinkOpens : t.Opens refuses .writing sink sinkAt)
    (found : t.find refuses .reading source = .error cause) :
    Atomic refuses t sink source (.error (.opening .source source cause)) t := by
  have closed := not_opens_of_find_error found
  exact
    { paths := ⟨rfl, fun text => rfl⟩
      sinkKept := fun p located => rfl
      -- a file that is found is opened, so that the source is none
      emptied := fun _ p _ _ located here => absurd (opens_file files located here) (closed p)
      others := fun p changed => absurd rfl changed
      opened := fun _ sourceAt => ⟨nofun, fun opens => absurd opens.2 (closed sourceAt)⟩
      failed := fun e failed => rfl
      sinkBlamed := fun none => absurd sinkOpens (none sinkAt)
      sourceBlamed := fun _ _ _ => ⟨cause, found, rfl⟩ }

theorem atomic_of_opens {sinkAt sourceAt : Path}
    (apart : ∀ p, t.locate sink = .ok p → t.locate source ≠ .ok p)
    (sinkOpens : t.Opens refuses .writing sink sinkAt)
    (sourceOpens : t.Opens refuses .reading source sourceAt) :
    Atomic refuses t sink source (.ok (sinkAt, sourceAt)) (t.truncate sourceAt) where
  paths := ⟨paths_truncate t sourceAt, locate_truncate t sourceAt⟩
  sinkKept p located := by
    refine node?_truncate_of_ne t ?_
    rintro rfl
    exact apart p located sourceOpens.located
  emptied _ p _ _ located here := by
    obtain rfl := Except.ok.inj (sourceOpens.located.symm.trans located)
    rw [node?_truncate_of_file t here, if_pos rfl]
  others p changed := by
    have same : p = sourceAt := Classical.byContradiction fun different =>
      changed (node?_truncate_of_ne t different)
    subst same
    have file : ∃ data, t.node? p = some (.file data) := Classical.byContradiction fun other =>
      changed (congrArg (node? · p) (truncate_eq_self (not_exists.mp other)))
    exact ⟨⟨sinkAt, sinkOpens⟩, sourceOpens.located, file⟩
  opened p q := by
    rw [← find_eq_ok_iff, ← find_eq_ok_iff, find_eq_ok_iff.mpr sinkOpens,
      find_eq_ok_iff.mpr sourceOpens]
    simp
  failed := nofun
  sinkBlamed none := absurd sinkOpens (none sinkAt)
  sourceBlamed _ _ none := absurd sourceOpens (none sourceAt)

/-- Opening the link is all or nothing, as long as files are opened for everything. -/
theorem openInCalls_atomic (files : ∀ purpose data, refuses purpose (.file data) = none)
    (apart : ∀ p, t.locate sink = .ok p → t.locate source ≠ .ok p) :
    (refuses = refusals → t.openInCalls refuses sink source =
      match Endpoints.openIn t sink source with
      | .error e => (.error e, t)
      | .ok ends => (.ok (ends.sink, ends.source), ends.tree)) ∧
    (t.Sound → ∀ purpose text p, t.Opens refuses purpose text p → ∃ n, t.node? p = some n) ∧
    Atomic refuses t sink source (t.openInCalls refuses sink source).1
      (t.openInCalls refuses sink source).2 := by
  refine ⟨?_, fun sound purpose text p opens => opens.exists_node sound, ?_⟩
  · rintro rfl
    exact openInCalls_refusals t sink source
  rw [openInCalls_eq files]
  cases sinkFound : t.find refuses .writing sink with
  | error cause => exact atomic_of_sink_error sinkFound
  | ok sinkAt =>
    have sinkOpens := find_eq_ok_iff.mp sinkFound
    cases sourceFound : t.find refuses .reading source with
    | error cause => exact atomic_of_source_error files sinkOpens sourceFound
    | ok sourceAt => exact atomic_of_opens apart sinkOpens (find_eq_ok_iff.mp sourceFound)

end Atomic

/-- A sink beside a source from an earlier run. -/
def stale : FileTree where
  nodes :=
    [(["work"], .directory), (["work", "sink"], .file [7]), (["work", "source"], .file [1, 2, 3])]
  current := ["work"]

theorem stale_sound : stale.Sound where
  parents := by
    intro p n node
    simp only [stale, List.mem_cons, List.not_mem_nil, or_false, Prod.mk.injEq] at node
    obtain ⟨rfl, -⟩ | ⟨rfl, -⟩ | ⟨rfl, -⟩ := node <;> decide
  inside := by decide

theorem locate_stale_sink : stale.locate "sink" = .ok ["work", "sink"] := by
  have size : "sink".utf8ByteSize = 4 := rfl
  simp [locate, walk, names, splitSlashes, isAbsolute, node?, stale, List.lookup_cons, maxLinks,
    maxPath, maxName, size]

theorem locate_stale_source : stale.locate "source" = .ok ["work", "source"] := by
  have size : "source".utf8ByteSize = 6 := rfl
  simp [locate, walk, names, splitSlashes, isAbsolute, node?, stale, List.lookup_cons, maxLinks,
    maxPath, maxName, size]

theorem openInCalls_atomic_stale :
    (∀ purpose data, refusals purpose (.file data) = none) ∧
    (∀ p, stale.locate "sink" = .ok p → stale.locate "source" ≠ .ok p) ∧ stale.Sound ∧
    ((Endpoints.openIn stale "sink" "source").map fun ends =>
      (ends.tree.node? ["work", "sink"], ends.tree.node? ["work", "source"])) =
        .ok (some (.file [7]), some (.file [])) := by
  have files (purpose : Purpose) (data : Bytes) : refusals purpose (.file data) = none := by
    cases purpose <;> rfl
  have apart (p : Path) (located : stale.locate "sink" = .ok p) :
      stale.locate "source" ≠ .ok p := by
    rw [locate_stale_sink] at located
    rw [locate_stale_source, ← located]
    simp
  obtain ⟨agreed, _, atomic⟩ := openInCalls_atomic files apart
  have sinkHere : stale.node? ["work", "sink"] = some (.file [7]) := rfl
  have sourceHere : stale.node? ["work", "source"] = some (.file [1, 2, 3]) := rfl
  have sinkOpens : stale.Opens refusals .writing "sink" ["work", "sink"] :=
    opens_file files locate_stale_sink sinkHere
  have sourceOpens : stale.Opens refusals .reading "source" ["work", "source"] :=
    opens_file files locate_stale_source sourceHere
  have opened := (atomic.opened _ _).mpr ⟨sinkOpens, sourceOpens⟩
  have kept := atomic.sinkKept _ locate_stale_sink
  have emptied := atomic.emptied _ _ _ sinkOpens locate_stale_source sourceHere
  refine ⟨files, apart, stale_sound, ?_⟩
  rw [agreed rfl] at opened kept emptied
  cases ends : Endpoints.openIn stale "sink" "source" with
  | error e =>
    rw [ends] at opened
    cases opened
  | ok ends' =>
    rw [ends] at kept emptied
    exact congrArg Except.ok (Prod.ext kept emptied)

end FileTree

end SerialSuite
