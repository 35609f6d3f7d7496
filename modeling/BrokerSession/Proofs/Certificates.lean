import BrokerSession.Network.Settings
import BrokerSession.Proofs.Files
import BrokerSession.Proofs.Network.Dial
import Mathlib

/-!
# The certificates of a directory

Which files of a directory are certificates is decided by their names, and they are taken in the order of their names.
So the certificates of a directory, and with them all that is loaded from it, are known when it is known which names
with the right endings it holds, and what is in these files. Neither the order in which the directory is listed nor
anything else in it makes a difference. They are taken all together or not at all: one that cannot be read is enough for
nothing to be loaded.

## Main definitions

* `Security.Bundle.IsCertificateName` - the endings of the names of certificates
* `Security.Bundle.CertificatesOf` - the certificates of a directory with their contents, as a list by name
* `Security.Bundle.SameCertificates` - two trees of files in which a directory has the same certificates

## Main results

* `Security.Bundle.isCertificate_iff` - the names are told by their endings
* `Security.Bundle.InOrder.eq_of_mem_iff` - there is one order of the names only
* `Security.Bundle.certificatesOf_of_directoryEntries` - what is taken from a directory
* `Security.Bundle.load_of_certificates` - what is loaded depends on the certificates, and on all of them
-/

namespace BrokerSession.Security.Bundle

open Files (Distinct HoldsAt IsDirectory)

variable {fs fs' : Files} {path name : String} {node : FileNode} {bytes : List UInt8}
  {server : Config.ServerCert} {client : Option Config.ClientCert}

/-! ## Names -/

/-- A name with one of the endings of certificates, and with something in front of it. -/
def IsCertificateName (name : String) : Prop := ∃ stem, stem ≠ "" ∧ (name = stem ++ ".pem" ∨ name = stem ++ ".crt")

/-- The extension of a name stands behind its last dot, which is not its first character. -/
theorem extension?_eq_some_iff {ending : String} (plain : '.' ∉ ending.toList) :
    extension? name = some ending ↔ ∃ stem, stem ≠ "" ∧ name = stem ++ "." ++ ending := by
  constructor
  · intro found
    cases behind : name.toList.reverse.dropWhile (· != '.') with
    | nil => simp [extension?, behind] at found
    | cons dot front =>
      cases front with
      | nil => simp [extension?, behind] at found
      | cons c front =>
        have parts := List.takeWhile_append_dropWhile (p := (· != '.')) (l := name.toList.reverse)
        have isDot : dot = '.' := by
          have stops := List.head_dropWhile_not (p := (· != '.')) (l := name.toList.reverse) (by simp [behind])
          simpa [behind] using stops
        simp only [extension?, behind, Option.some.injEq] at found
        rw [behind, isDot] at parts
        refine ⟨String.ofList (c :: front).reverse, by simp, ?_⟩
        generalize name.toList.reverse.takeWhile (· != '.') = tail at parts found
        rw [← found, ← String.toList_inj, ← List.reverse_inj, ← parts]
        simp
  · rintro ⟨stem, some, rfl⟩
    have others : ∀ d ∈ ending.toList.reverse, (d != '.') = true := fun d held =>
      bne_iff_ne.mpr fun same => plain (same ▸ List.mem_reverse.mp held)
    obtain ⟨c, front, filled⟩ : ∃ c front, stem.toList.reverse = c :: front :=
      List.exists_cons_of_ne_nil fun none => some (String.toList_eq_nil_iff.mp (List.reverse_eq_nil_iff.mp none))
    simp [extension?, List.dropWhile_append_of_pos others, List.takeWhile_append_of_pos others, filled]

/-- The names of certificates are told by their endings. -/
theorem isCertificate_iff : isCertificate name = true ↔ IsCertificateName name := by
  have pem : extension? name = some "pem" ↔ _ := extension?_eq_some_iff (by decide)
  have crt : extension? name = some "crt" ↔ _ := extension?_eq_some_iff (by decide)
  have pemText (stem : String) : stem ++ "." ++ "pem" = stem ++ ".pem" := String.append_assoc ..
  have crtText (stem : String) : stem ++ "." ++ "crt" = stem ++ ".crt" := String.append_assoc ..
  simp only [pemText, crtText] at pem crt
  rw [isCertificate, Bool.or_eq_true, beq_iff_eq, beq_iff_eq, pem, crt, IsCertificateName]
  constructor
  · rintro (⟨stem, some, same⟩ | ⟨stem, some, same⟩)
    · exact ⟨stem, some, .inl same⟩
    · exact ⟨stem, some, .inr same⟩
  · rintro ⟨stem, some, same | same⟩
    · exact .inl ⟨stem, some, same⟩
    · exact .inr ⟨stem, some, same⟩

/-- No name of a certificate leads upward. -/
theorem IsCertificateName.ne_upward (named : IsCertificateName name) : name ≠ Files.upward := by
  rintro rfl
  have told := isCertificate_iff.mpr named
  revert told
  decide

/-! ## The order of names -/

/-- What is named stands in the order of the names, each of which occurs once. -/
def InOrder {α : Type} (list : List (String × α)) : Prop := list.Pairwise fun a b => a.1 < b.1

/-- There is one order only: what is named stands in the same list if it is the same. -/
theorem InOrder.eq_of_mem_iff {α : Type} {l l' : List (String × α)} (ordered : InOrder l) (ordered' : InOrder l')
    (same : ∀ a, a ∈ l ↔ a ∈ l') : l = l' := by
  have once {l : List (String × α)} (ordered : InOrder l) : l.Nodup := by
    refine List.Pairwise.imp ?_ ordered
    intro a b before alike
    exact lt_irrefl b.1 (alike ▸ before)
  have permuted : l.Perm l' := (List.perm_ext_iff_of_nodup (once ordered) (once ordered')).mpr same
  refine permuted.eq_of_pairwise (fun a b _ _ before behind => ?_) ordered ordered'
  exact absurd (before.trans behind) (lt_irrefl _)

theorem mem_certificates_iff {children : List (String × FileNode)} :
    (name, node) ∈ certificates children ↔ (name, node) ∈ children ∧ node ≠ .directory ∧ IsCertificateName name := by
  have kind : node.isDirectory = false ↔ node ≠ .directory := by cases node <;> simp [FileNode.isDirectory]
  rw [certificates, (List.mergeSort_perm _ _).mem_iff, List.mem_filter, ← isCertificate_iff, ← kind]
  simp

/-- The certificates of a listing with every name once are taken in the order of their names. -/
theorem inOrder_certificates {children : List (String × FileNode)} (once : (children.map (·.1)).Nodup) :
    InOrder (certificates children) := by
  have sorted : (certificates children).Pairwise fun a b => a.1 ≤ b.1 := by
    unfold certificates
    refine List.Pairwise.imp of_decide_eq_true (List.pairwise_mergeSort (fun a b c first second => ?_) (fun a b => ?_) _)
    · simpa using le_trans (of_decide_eq_true first) (of_decide_eq_true second)
    · simpa using le_total a.1 b.1
  have distinct : (certificates children).Pairwise fun a b => a.1 ≠ b.1 := by
    rw [certificates, ← List.pairwise_map (f := Prod.fst) (R := (· ≠ ·))]
    refine ((List.mergeSort_perm _ _).map Prod.fst).nodup_iff.mpr ?_
    exact once.sublist (List.filter_sublist.map Prod.fst)
  exact (sorted.and distinct).imp fun both => lt_of_le_of_ne both.1 both.2

/-! ## What is taken from a directory -/

section

variable {ε α β : Type} {f : α → Except ε β} {l : List α} {bs : List β}

theorem mem_of_mapM_eq_ok (made : l.mapM f = .ok bs) {b : β} : b ∈ bs ↔ ∃ a ∈ l, f a = .ok b := by
  induction l generalizing bs with
  | nil =>
    cases made
    simp
  | cons a l ih =>
    rw [List.mapM_cons] at made
    obtain ⟨first, opened, made⟩ := bind_eq_ok_iff.mp made
    obtain ⟨rest, others, made⟩ := bind_eq_ok_iff.mp made
    cases made
    rw [List.mem_cons, ih others, List.exists_mem_cons_iff, opened, Except.ok.injEq, eq_comm]

theorem map_of_mapM_eq_ok {γ : Type} {g : β → γ} {h : α → γ} (keeps : ∀ a b, f a = .ok b → g b = h a)
    (made : l.mapM f = .ok bs) : bs.map g = l.map h := by
  induction l generalizing bs with
  | nil =>
    cases made
    rfl
  | cons a l ih =>
    rw [List.mapM_cons] at made
    obtain ⟨first, opened, made⟩ := bind_eq_ok_iff.mp made
    obtain ⟨rest, others, made⟩ := bind_eq_ok_iff.mp made
    cases made
    rw [List.map_cons, List.map_cons, keeps a first opened, ih others]

/-- Where nothing fails for another reason, one failure is the failure of all. -/
theorem mapM_eq_error {e : ε} (only : ∀ a e', f a = .error e' → e' = e) {a : α} (among : a ∈ l)
    (fails : f a = .error e) : l.mapM f = .error e := by
  induction l with
  | nil => cases among
  | cons first l ih =>
    rw [List.mapM_cons]
    cases tried : f first with
    | error e' =>
      rw [only first e' tried]
      rfl
    | ok b =>
      rcases List.mem_cons.mp among with rfl | later
      · rw [tried] at fails
        cases fails
      · rw [ih later]
        rfl

end

theorem opened_eq_ok_iff {certificate : String × FileNode} {entry : String × List UInt8} :
    opened certificate = .ok entry ↔
      certificate.1 = entry.1 ∧ ∃ contents, certificate.2 = .file contents ∧ entry.2 = contents.data.toList := by
  obtain ⟨name, node⟩ := certificate
  obtain ⟨name', bytes⟩ := entry
  cases node with
  | file contents => simp [opened, FileNode.read, eq_comm]
  | lockedFile => simp [opened, FileNode.read]
  | directory => simp [opened, FileNode.read]

theorem eq_inval_of_opened {certificate : String × FileNode} {status : Status}
    (fails : opened certificate = .error status) : status = .inval := by
  unfold opened at fails
  split at fails
  · cases fails
  · exact (Except.error.inj fails).symm

/-- The certificates of a directory with their contents: the files that it holds under the names of certificates, in the
order of these names. -/
structure CertificatesOf (fs : Files) (path : String) (entries : List (String × List UInt8)) : Prop where
  inOrder : InOrder entries
  mem_iff : ∀ name bytes, (name, bytes) ∈ entries ↔
    IsCertificateName name ∧ ∃ contents, fs.HoldsAt path name (.file contents) ∧ bytes = contents.data.toList

/-- There is no doubt about the certificates of a directory. -/
theorem CertificatesOf.unique {entries entries' : List (String × List UInt8)} (held : CertificatesOf fs path entries)
    (held' : CertificatesOf fs path entries') : entries = entries' := by
  refine held.inOrder.eq_of_mem_iff held'.inOrder ?_
  rintro ⟨name, bytes⟩
  rw [held.mem_iff, held'.mem_iff]

theorem directoryEntries_of_children {children : List (String × FileNode)} (listed : fs.children path = .ok children) :
    directoryEntries fs path = (certificates children).mapM opened := by
  rw [directoryEntries, listed]

/-- A certificate of a listing is a file that the directory holds under the name of a certificate. -/
theorem mem_certificates_iff_holdsAt (distinct : fs.Distinct) {children : List (String × FileNode)}
    (listed : fs.children path = .ok children) :
    (name, node) ∈ certificates children ↔
      IsCertificateName name ∧ node ≠ .directory ∧ fs.HoldsAt path name node := by
  rw [mem_certificates_iff]
  constructor
  · rintro ⟨among, file, named⟩
    exact ⟨named, file, (Files.mem_children_iff distinct listed named.ne_upward).mp among⟩
  · rintro ⟨named, file, there⟩
    exact ⟨(Files.mem_children_iff distinct listed named.ne_upward).mpr there, file, named⟩

/-- What is taken from a directory are its certificates with their contents. -/
theorem certificatesOf_of_directoryEntries (distinct : fs.Distinct) {entries : List (String × List UInt8)}
    (taken : directoryEntries fs path = .ok entries) : CertificatesOf fs path entries := by
  cases listed : fs.children path with
  | error fault =>
    rw [directoryEntries, listed] at taken
    cases taken
  | ok children =>
    rw [directoryEntries_of_children listed] at taken
    constructor
    · have names := map_of_mapM_eq_ok (g := Prod.fst) (h := Prod.fst)
        (fun a b made => (opened_eq_ok_iff.mp made).1.symm) taken
      have ordered := inOrder_certificates (Files.nodup_children distinct listed)
      rw [InOrder, ← List.pairwise_map (f := Prod.fst) (R := (· < ·))] at ordered ⊢
      rwa [names]
    · intro name bytes
      rw [mem_of_mapM_eq_ok taken]
      constructor
      · rintro ⟨⟨name', node⟩, among, made⟩
        obtain ⟨rfl, contents, rfl, rfl⟩ := opened_eq_ok_iff.mp made
        obtain ⟨named, -, there⟩ := (mem_certificates_iff_holdsAt distinct listed).mp among
        exact ⟨named, contents, there, rfl⟩
      · rintro ⟨named, contents, there, rfl⟩
        refine ⟨(name, .file contents), ?_, opened_eq_ok_iff.mpr ⟨rfl, contents, rfl, rfl⟩⟩
        exact (mem_certificates_iff_holdsAt distinct listed).mpr ⟨named, by simp, there⟩

/-! ## What does not matter -/

/-- A directory of two trees of files holds the same files under the names of certificates. -/
structure SameCertificates (fs fs' : Files) (path : String) : Prop where
  isDirectory : fs.IsDirectory path ∧ fs'.IsDirectory path
  holdsAt_iff : ∀ name node, IsCertificateName name → node ≠ .directory →
    (fs.HoldsAt path name node ↔ fs'.HoldsAt path name node)

theorem directoryEntries_congr (distinct : fs.Distinct) (distinct' : fs'.Distinct)
    (same : SameCertificates fs fs' path) : directoryEntries fs path = directoryEntries fs' path := by
  obtain ⟨children, listed⟩ := Files.exists_children_iff.mpr same.isDirectory.1
  obtain ⟨children', listed'⟩ := Files.exists_children_iff.mpr same.isDirectory.2
  have alike : certificates children = certificates children' := by
    refine (inOrder_certificates (Files.nodup_children distinct listed)).eq_of_mem_iff
      (inOrder_certificates (Files.nodup_children distinct' listed')) ?_
    rintro ⟨name, node⟩
    rw [mem_certificates_iff_holdsAt distinct listed, mem_certificates_iff_holdsAt distinct' listed']
    refine and_congr_right fun named => and_congr_right fun file => ?_
    exact same.holdsAt_iff name node named file
  rw [directoryEntries_of_children listed, directoryEntries_of_children listed', alike]

/-- One certificate that cannot be read is enough. -/
theorem directoryEntries_of_unreadable (distinct : fs.Distinct) (named : IsCertificateName name)
    (file : node ≠ .directory) (there : fs.HoldsAt path name node) {fault : FileFault}
    (unreadable : node.read = .error fault) : directoryEntries fs path = .error .inval := by
  obtain ⟨children, listed⟩ := Files.exists_children_iff.mpr (there.imp fun _ => And.left)
  rw [directoryEntries_of_children listed]
  refine mapM_eq_error (fun _ _ => eq_inval_of_opened)
    ((mem_certificates_iff_holdsAt distinct listed).mpr ⟨named, file, there⟩) ?_
  rw [opened, unreadable]

theorem contents_congr (same : (fs.read path).toOption = (fs'.read path).toOption) :
    contents fs path = contents fs' path := by
  unfold contents
  cases read : fs.read path with
  | error fault =>
    cases read' : fs'.read path with
    | error fault' => rfl
    | ok bytes => rw [read, read'] at same; cases same
  | ok bytes =>
    cases read' : fs'.read path with
    | error fault' => rw [read, read'] at same; cases same
    | ok bytes' =>
      rw [read, read'] at same
      cases same
      rfl

/-- The files that are named one by one. -/
def namedFiles (server : Config.ServerCert) (client : Option Config.ClientCert) : List String :=
  server.caFile.toList ++ client.toList.flatMap fun k => [k.certFile, k.keyFile]

theorem eq_inval_of_optional_contents {path? : Option String} {status : Status}
    (fails : optional (contents fs) path? = .error status) : status = .inval := by
  cases path? with
  | none => cases fails
  | some path =>
    simp only [optional, contents] at fails
    split at fails
    · cases fails
    · exact (Except.error.inj fails).symm

/-- What is loaded depends on the certificates of the directory and on the files that are named one by one, and on
nothing else; and nothing is loaded if one of these certificates cannot be read. -/
theorem load_of_certificates (server : Config.ServerCert) (client : Option Config.ClientCert) {fs : Files}
    (distinct : fs.Distinct) :
    (∀ fs' : Files, fs'.Distinct →
      (∀ path, server.caPath = some path → SameCertificates fs fs' path) →
      (∀ path ∈ namedFiles server client, (fs.read path).toOption = (fs'.read path).toOption) →
        load fs server client = load fs' server client) ∧
      ∀ path name node fault, server.caPath = some path → IsCertificateName name → node ≠ .directory →
        fs.HoldsAt path name node → node.read = .error fault → load fs server client = .error .inval := by
  constructor
  · intro fs' distinct' directory files
    have file : optional (contents fs) server.caFile = optional (contents fs') server.caFile := by
      cases named : server.caFile with
      | none => rfl
      | some path => exact contents_congr (files path (by simp [namedFiles, named]))
    -- The directory counts through its certificates only, in the order of their names.
    have others : optional (directoryContents fs) server.caPath = optional (directoryContents fs') server.caPath := by
      cases named : server.caPath with
      | none => rfl
      | some path =>
        rw [optional, optional, directoryContents, directoryContents,
          directoryEntries_congr distinct distinct' (directory path named)]
    cases client with
    | none => rw [load, load, file, others]
    | some k =>
      have shown : clientContents fs k = clientContents fs' k := by
        rw [clientContents, clientContents, contents_congr (files k.certFile (by simp [namedFiles])),
          contents_congr (files k.keyFile (by simp [namedFiles]))]
      simp only [load, file, others, shown]
  · intro path name node fault named certificate isFile there unreadable
    have directory : optional (directoryContents fs) server.caPath = .error .inval := by
      rw [named, optional, directoryContents,
        directoryEntries_of_unreadable distinct certificate isFile there unreadable]
      rfl
    rw [load]
    -- The file that is named alone is read first, and an error with it is the same error.
    cases first : optional (contents fs) server.caFile with
    | error status =>
      rw [eq_inval_of_optional_contents first]
      rfl
    | ok file =>
      rw [directory]
      rfl

/-- Two certificates, and a note that is none. -/
def store : Files :=
  ((Files.empty.addFile "d/b.pem" ⟨#[66]⟩).addFile "d/a.crt" ⟨#[65, 10]⟩).addFile "d/notes.txt" ⟨#[78]⟩

/-- The same certificates in another order, among a directory that is named like one and a file whose name only begins
with a dot. -/
def otherStore : Files :=
  (((Files.empty.addFile "d/a.crt" ⟨#[65, 10]⟩).addDirectory "d/c.pem").addFile "d/.pem" ⟨#[80]⟩).addFile "d/b.pem"
    ⟨#[66]⟩

theorem children_store :
    store.children "d" =
      .ok [("b.pem", .file ⟨#[66]⟩), ("a.crt", .file ⟨#[65, 10]⟩), ("notes.txt", .file ⟨#[78]⟩)] := by
  rfl

theorem children_otherStore :
    otherStore.children "d" =
      .ok [("a.crt", .file ⟨#[65, 10]⟩), ("c.pem", .directory), (".pem", .file ⟨#[80]⟩), ("b.pem", .file ⟨#[66]⟩)] := by
  rfl

theorem distinct_store : store.Distinct :=
  Files.distinct_addFile (Files.distinct_addFile (Files.distinct_addFile Files.distinct_empty _ _) _ _) _ _

theorem distinct_otherStore : otherStore.Distinct :=
  Files.distinct_addFile (Files.distinct_addFile
    (Files.distinct_addDirectory (Files.distinct_addFile Files.distinct_empty _ _) _) _ _) _ _

theorem sameCertificates_stores : SameCertificates store otherStore "d" where
  isDirectory :=
    ⟨Files.exists_children_iff.mp ⟨_, children_store⟩, Files.exists_children_iff.mp ⟨_, children_otherStore⟩⟩
  holdsAt_iff := by
    intro name node named file
    have note : name ≠ "notes.txt" := fun same => absurd (isCertificate_iff.mpr (same ▸ named)) (by decide)
    have hidden : name ≠ ".pem" := fun same => absurd (isCertificate_iff.mpr (same ▸ named)) (by decide)
    rw [← Files.mem_children_iff distinct_store children_store named.ne_upward,
      ← Files.mem_children_iff distinct_otherStore children_otherStore named.ne_upward]
    simp [note, hidden, file, or_comm]

/-- The same is loaded from both, and nothing if there is a third certificate that cannot be read. -/
theorem load_of_certificates_stores :
    load store ⟨none, some "d"⟩ none = load otherStore ⟨none, some "d"⟩ none ∧
      load store ⟨none, some "d"⟩ none = .ok ⟨[65, 10, 66, 10], none⟩ ∧
      load (store.insert ["d", "c.pem"] .lockedFile) ⟨none, some "d"⟩ none = .error .inval := by
  refine ⟨?_, by cbv, ?_⟩
  · refine (load_of_certificates ⟨none, some "d"⟩ none distinct_store).1 otherStore distinct_otherStore ?_ ?_
    · rintro path ⟨⟩
      exact sameCertificates_stores
    · simp [namedFiles]
  · exact (load_of_certificates ⟨none, some "d"⟩ none (distinct_store.insert _ _)).2 "d" "c.pem" .lockedFile .notAllowed
      rfl (isCertificate_iff.mp (by decide)) (by simp) ⟨["d"], by rfl, by rfl⟩ rfl

end BrokerSession.Security.Bundle
