import BrokerSession.Proofs.Certificates.Lines

/-!
# What vouches for a broker

Nothing is loaded unless something comes together that could vouch for the broker. That is asked after the files of the
directory have been ended, and an empty file that is ended is a blank line. So a directory with certificates in it is
always enough, even if nothing stands in them and nothing stands in the named file: then blank lines are loaded, and
nobody vouches for the broker.

## Main definitions

* `Security.Bundle.IsOpen`, `Security.Bundle.Readable` - everything that is named can be read
* `Security.Bundle.Vouched` - something stands in one of the files that are taken
* `Security.Bundle.Hollow` - there are certificates in the directory, and nothing stands anywhere
* `Security.Bundle.shown` - what the client shows of itself

## Main results

* `Security.Bundle.readable_iff` - what can be read is read
* `Security.Bundle.flatten_parts_eq_nil_iff` - when nothing comes together
* `Security.Bundle.vouched_of_load_iff` - when somebody vouches for the broker after something is loaded
-/

namespace BrokerSession.Security.Bundle

variable {fs : Files} {path : String} {server : Config.ServerCert} {client : Option Config.ClientCert} {b : Bundle}
  {file : Option (List UInt8)} {entries : List (String × List UInt8)} {front behind : List UInt8}

/-! ## What can be read -/

/-- A path leads to a directory, and every certificate in it can be read. -/
def IsOpen (fs : Files) (path : String) : Prop :=
  fs.IsDirectory path ∧ ∀ name node, IsCertificateName name → node ≠ .directory → fs.HoldsAt path name node →
    ∃ contents, node = .file contents

/-- Everything that is named can be read: the file, and the directory with all the certificates in it. -/
structure Readable (fs : Files) (server : Config.ServerCert) : Prop where
  file : ∀ path, server.caFile = some path → ∃ contents, fs.read path = .ok contents
  directory : ∀ path, server.caPath = some path → IsOpen fs path

theorem exists_mapM_eq_ok {ε α β : Type} {f : α → Except ε β} {l : List α} (each : ∀ a ∈ l, ∃ b, f a = .ok b) :
    ∃ bs, l.mapM f = .ok bs := by
  induction l with
  | nil => exact ⟨[], rfl⟩
  | cons a l ih =>
    obtain ⟨first, rest⟩ := List.forall_mem_cons.mp each
    obtain ⟨b, made⟩ := first
    obtain ⟨bs, others⟩ := ih rest
    exact ⟨b :: bs, by rw [List.mapM_cons, made, others]; rfl⟩

theorem exists_contents_iff : (∃ bytes, contents fs path = .ok bytes) ↔ ∃ bytes, fs.read path = .ok bytes := by
  unfold contents
  cases fs.read path <;> simp

/-- A directory is taken as a whole, with every certificate in it. -/
theorem exists_directoryContents_iff (distinct : fs.Distinct) :
    (∃ bytes, directoryContents fs path = .ok bytes) ↔ IsOpen fs path := by
  constructor
  · rintro ⟨bytes, made⟩
    obtain ⟨entries, taken, -⟩ := bind_eq_ok_iff.mp made
    refine ⟨?_, fun name node named isFile there => ?_⟩
    · cases listed : fs.children path with
      | error fault => rw [directoryEntries, listed] at taken; cases taken
      | ok children => exact Files.exists_children_iff.mp ⟨children, listed⟩
    · cases node with
      | file contents => exact ⟨contents, rfl⟩
      | directory => exact absurd rfl isFile
      | lockedFile =>
        rw [directoryEntries_of_unreadable distinct named isFile there rfl] at taken
        cases taken
  · rintro ⟨isDirectory, files⟩
    obtain ⟨children, listed⟩ := Files.exists_children_iff.mpr isDirectory
    have each : ∀ certificate ∈ certificates children, ∃ entry, opened certificate = .ok entry := by
      rintro ⟨name, node⟩ among
      obtain ⟨named, isFile, there⟩ := (mem_certificates_iff_holdsAt distinct listed).mp among
      obtain ⟨contents, rfl⟩ := files name node named isFile there
      exact ⟨(name, contents.data.toList), rfl⟩
    obtain ⟨entries, taken⟩ := exists_mapM_eq_ok each
    rw [← directoryEntries_of_children listed] at taken
    exact ⟨_, by rw [directoryContents, taken]; rfl⟩

/-- What can be read is read. -/
theorem readable_iff (distinct : fs.Distinct) :
    Readable fs server ↔ (∃ front, optional (contents fs) server.caFile = .ok front) ∧
      ∃ behind, optional (directoryContents fs) server.caPath = .ok behind := by
  have file : (∃ front, optional (contents fs) server.caFile = .ok front) ↔
      ∀ path, server.caFile = some path → ∃ bytes, fs.read path = .ok bytes := by
    cases server.caFile with
    | none => simp [optional]
    | some path => simp [optional, exists_contents_iff]
  have directory : (∃ behind, optional (directoryContents fs) server.caPath = .ok behind) ↔
      ∀ path, server.caPath = some path → IsOpen fs path := by
    cases server.caPath with
    | none => simp [optional]
    | some path => simp [optional, exists_directoryContents_iff distinct]
  rw [file, directory]
  exact ⟨fun readable => ⟨readable.file, readable.directory⟩, fun each => ⟨each.1, each.2⟩⟩

/-! ## When nothing comes together -/

/-- Something stands in one of the files that are taken. -/
def Vouched (file : Option (List UInt8)) (entries : List (String × List UInt8)) : Prop :=
  ∃ source ∈ sources file entries, source ≠ []

instance : Decidable (Vouched file entries) := inferInstanceAs (Decidable (∃ source ∈ _, source ≠ []))

/-- There are certificates in the directory, and nothing stands in any of the files that are taken. -/
def Hollow (file : Option (List UInt8)) (entries : List (String × List UInt8)) : Prop :=
  entries ≠ [] ∧ ¬ Vouched file entries

theorem not_vouched_iff :
    ¬ Vouched file entries ↔ (∀ bytes ∈ file, bytes = []) ∧ ∀ entry ∈ entries, entry.2 = [] := by
  simp only [Vouched, sources, Option.mem_def, List.mem_append, Option.mem_toList, List.mem_map, not_exists, not_and,
    not_not, or_imp, forall_and, forall_exists_index, and_imp, forall_apply_eq_imp_iff₂]

theorem ended_nonempty (bytes : List UInt8) : ended bytes ≠ [] := by
  unfold ended
  split
  case isTrue fed => rintro rfl; cases fed
  case isFalse => simp

/-- Nothing comes together if no certificate is in the directory and nothing stands in the named file. -/
theorem flatten_parts_eq_nil_iff : (parts file entries).flatten = [] ↔ entries = [] ∧ ¬ Vouched file entries := by
  rw [not_vouched_iff, List.flatten_eq_nil_iff, parts, List.forall_mem_append]
  constructor
  · rintro ⟨named, others⟩
    have none : entries = [] := by
      refine List.eq_nil_iff_forall_not_mem.mpr fun entry among => ended_nonempty entry.2 ?_
      exact others _ (List.mem_map_of_mem among)
    exact ⟨none, fun bytes there => named bytes (Option.mem_toList.mpr there), by simp [none]⟩
  · rintro ⟨rfl, named, -⟩
    exact ⟨fun bytes among => named bytes (Option.mem_toList.mp among), by simp⟩

/-- Out of empty files blank lines come together, one for each certificate of the directory. -/
theorem flatten_parts_of_not_vouched (nobody : ¬ Vouched file entries) :
    (parts file entries).flatten = List.replicate entries.length lineFeed := by
  obtain ⟨named, others⟩ := not_vouched_iff.mp nobody
  have first : file.toList.flatten = [] :=
    List.flatten_eq_nil_iff.mpr fun bytes among => named bytes (Option.mem_toList.mp among)
  rw [parts, List.flatten_append, first, List.nil_append]
  clear first named nobody
  induction entries with
  | nil => rfl
  | cons entry rest ih =>
    obtain ⟨blank, blanks⟩ := List.forall_mem_cons.mp others
    rw [List.map_cons, List.flatten_cons, ih blanks, blank, List.length_cons, List.replicate_succ]
    rfl

/-! ## What is loaded -/

/-- What the client shows of itself, if it shows anything. -/
def shown (fs : Files) : Option Config.ClientCert → Except Status (Option (List UInt8 × List UInt8))
  | none => .ok none
  | some k => (clientContents fs k).map some

theorem load_of_read (first : optional (contents fs) server.caFile = .ok front)
    (second : optional (directoryContents fs) server.caPath = .ok behind) :
    load fs server client =
      if front ++ behind = [] then .error .inval else (shown fs client).map (Bundle.mk (front ++ behind)) := by
  rw [load, first, second]
  by_cases none : front ++ behind = []
  · rw [if_pos none]
    simp [bind, Except.bind, none, throw, throwThe, MonadExceptOf.throw]
  · rw [if_neg none]
    cases client with
    | none => simp [bind, Except.bind, none, shown, Except.map, pure, Except.pure]
    | some k =>
      simp only [bind, Except.bind, shown, pure, Except.pure, List.isEmpty_iff, none, if_false]
      cases clientContents fs k <;> rfl

theorem eq_inval_of_optional_directoryContents {path? : Option String} {status : Status}
    (fails : optional (directoryContents fs) path? = .error status) : status = .inval := by
  by_contra other
  cases path? with
  | none => cases fails
  | some path =>
    refine bind_ne_error ?_ (fun entries thrown => by cases thrown) fails
    cases listed : fs.children path with
    | error fault =>
      rw [directoryEntries, listed]
      exact fun same => other (Except.error.inj same).symm
    | ok children =>
      rw [directoryEntries_of_children listed]
      exact mapM_ne_error (fun certificate unopened => other (eq_inval_of_opened unopened)) _

/-- Nothing is loaded if something that is named cannot be read. -/
theorem load_of_not_readable (distinct : fs.Distinct) (unreadable : ¬ Readable fs server) :
    load fs server client = .error .inval := by
  rw [readable_iff distinct, not_and_or] at unreadable
  cases first : optional (contents fs) server.caFile with
  | error status =>
    rw [load, first, eq_inval_of_optional_contents first]
    rfl
  | ok front =>
    cases second : optional (directoryContents fs) server.caPath with
    | error status =>
      rw [load, first, second, eq_inval_of_optional_directoryContents second]
      rfl
    | ok behind => simp [first, second] at unreadable

/-- What is loaded when everything can be read: what comes together, with what the client shows of itself, unless
nothing comes together. -/
theorem load_of_readable (distinct : fs.Distinct) (readable : Readable fs server) :
    ∃ file entries, Sources fs server file entries ∧ ∀ client, load fs server client =
      if entries = [] ∧ ¬ Vouched file entries then .error .inval
      else (shown fs client).map (Bundle.mk (parts file entries).flatten) := by
  obtain ⟨⟨front, first⟩, behind, second⟩ := (readable_iff distinct).mp readable
  obtain ⟨file, named, rfl⟩ := exists_fileOf first
  obtain ⟨entries, held, rfl⟩ := exists_entriesOf distinct second
  have whole :
      file.toList.flatten ++ (entries.map fun entry => ended entry.2).flatten = (parts file entries).flatten := by
    rw [parts, List.flatten_append]
  refine ⟨file, entries, ⟨named, held⟩, fun client => ?_⟩
  rw [load_of_read first second, whole]
  simp only [flatten_parts_eq_nil_iff]

/-- If something that is named cannot be read nothing is loaded. Otherwise the files that are taken decide: whoever
loads something has somebody who vouches for the broker, and nothing is loaded if there is nobody, exactly if it is not
so that the directory holds certificates and nothing stands anywhere. Then blank lines are loaded. -/
theorem vouched_of_load_iff (distinct : fs.Distinct) (server : Config.ServerCert) :
    (¬ Readable fs server → ∀ client, load fs server client = .error .inval) ∧
      (Readable fs server → ∃ file entries, Sources fs server file entries ∧
        ((∀ client b, load fs server client = .ok b → Vouched file entries) ∧
          (¬ Vouched file entries → ∀ client, load fs server client = .error .inval) ↔ ¬ Hollow file entries) ∧
        (Hollow file entries → ∀ client, load fs server client =
          (shown fs client).map (Bundle.mk (List.replicate entries.length lineFeed)))) := by
  refine ⟨fun unreadable client => load_of_not_readable distinct unreadable, fun readable => ?_⟩
  obtain ⟨file, entries, taken, loads⟩ := load_of_readable distinct readable
  have blank (hollow : Hollow file entries) (client : Option Config.ClientCert) :
      load fs server client = (shown fs client).map (Bundle.mk (List.replicate entries.length lineFeed)) := by
    rw [loads client, if_neg fun none => hollow.1 none.1, flatten_parts_of_not_vouched hollow.2]
  refine ⟨file, entries, taken, ⟨?_, fun filled => ⟨?_, ?_⟩⟩, blank⟩
  · -- A client that shows nothing gets the blank lines.
    rintro ⟨sound, -⟩ hollow
    exact hollow.2 (sound none _ (blank hollow none))
  · intro client b loaded
    by_contra nobody
    have none : entries = [] := by
      by_contra some
      exact filled ⟨some, nobody⟩
    rw [loads client, if_pos ⟨none, nobody⟩] at loaded
    cases loaded
  · intro nobody client
    have none : entries = [] := by
      by_contra some
      exact filled ⟨some, nobody⟩
    rw [loads client, if_pos ⟨none, nobody⟩]

/-- An empty file, and a directory with an empty certificate. -/
def blank : Files := (Files.empty.addFile "ca.pem" .empty).addFile "certs/a.pem" .empty

/-- The same with something in a second certificate. -/
def filled : Files := blank.addFile "certs/b.pem" ⟨#[66]⟩

theorem distinct_blank : blank.Distinct :=
  Files.distinct_addFile (Files.distinct_addFile Files.distinct_empty _ _) _ _

theorem distinct_filled : filled.Distinct := Files.distinct_addFile distinct_blank _ _

theorem sources_blank : Sources blank ⟨none, some "certs"⟩ none [("a.pem", [])] where
  file := rfl
  directory := certificatesOf_of_directoryEntries distinct_blank (by cbv)

theorem sources_filled : Sources filled both (some []) [("a.pem", []), ("b.pem", [66])] where
  file := ⟨.empty, by rfl, rfl⟩
  directory := certificatesOf_of_directoryEntries distinct_filled (by cbv)

/-- Among empty files one is enough in which something stands; an empty file by itself is not. -/
theorem vouched_of_load_iff_filled :
    load filled both none = .ok ⟨[10, 66, 10], none⟩ ∧ Vouched (some []) [("a.pem", []), ("b.pem", [66])] ∧
      load filled ⟨some "ca.pem", none⟩ none = .error .inval := by
  have loaded : load filled both none = .ok ⟨[10, 66, 10], none⟩ := by cbv
  refine ⟨loaded, ?_, ?_⟩
  · have readable : Readable filled both := (readable_iff distinct_filled).mpr ⟨⟨[], by cbv⟩, [10, 66, 10], by cbv⟩
    obtain ⟨file, entries, taken, sound, -⟩ := (vouched_of_load_iff distinct_filled both).2 readable
    obtain ⟨rfl, rfl⟩ := taken.unique sources_filled
    exact (sound.mpr fun hollow => hollow.2 (by decide)).1 none _ loaded
  · have readable : Readable filled ⟨some "ca.pem", none⟩ :=
      (readable_iff distinct_filled).mpr ⟨⟨[], by cbv⟩, [], rfl⟩
    obtain ⟨file, entries, taken, sound, -⟩ := (vouched_of_load_iff distinct_filled ⟨some "ca.pem", none⟩).2 readable
    have alone : Sources filled ⟨some "ca.pem", none⟩ (some []) [] := ⟨⟨.empty, by rfl, rfl⟩, rfl⟩
    obtain ⟨rfl, rfl⟩ := taken.unique alone
    exact (sound.mpr fun hollow => hollow.1 rfl).2 (by decide) none

/-- A directory with an empty certificate is enough for a blank line to be loaded, for which nobody vouches. -/
theorem loaded_of_blank :
    load blank ⟨none, some "certs"⟩ none = .ok ⟨[10], none⟩ ∧
      Sources blank ⟨none, some "certs"⟩ none [("a.pem", [])] ∧ ¬ Vouched none [("a.pem", [])] :=
  ⟨by cbv, sources_blank, by decide⟩

end BrokerSession.Security.Bundle
