import BrokerSession.Proofs.Certificates

/-!
# Certificates line by line

The certificates that vouch for a broker are put together from a named file and from the files of a directory. They are
text, so what counts is that each of them keeps its lines to itself. A file of the directory is ended when its last line
is not, and whatever follows begins a line of its own. The named file comes first and is taken as it is: if its last
line is not ended, the first certificate of the directory goes on in that line, and both lines are lost.

## Main definitions

* `Security.Bundle.lines` - the lines of some bytes
* `Security.Bundle.Sources` - the contents of the named file and of the certificates of the directory
* `Security.Bundle.OnLines` - every source begins a line, and the lines are those of the sources
* `Security.Bundle.Joins` - a named file that is not ended, with a certificate behind it

## Main results

* `Security.Bundle.lines_append` - what begins a line keeps its lines
* `Security.Bundle.lines_append_of_unended` - what goes on in a line is joined to it
* `Security.Bundle.lines_of_load` - when the lines of what is loaded are those of its sources, and what they are if not
-/

namespace BrokerSession.Security.Bundle

variable {fs : Files} {server : Config.ServerCert} {client : Option Config.ClientCert} {b : Bundle}
  {s t bytes : List UInt8} {given placed : List (List UInt8)}

/-! ## Lines -/

/-- The lines of some bytes, without the line feeds that end them. The last one need not be ended. -/
def lines : List UInt8 → List (List UInt8)
  | [] => []
  | b :: rest =>
    if b = lineFeed then [] :: lines rest
    else
      match lines rest with
      | [] => [[b]]
      | first :: more => (b :: first) :: more

/-- What follows these bytes begins a line. -/
def AtLineStart (before : List UInt8) : Prop := before = [] ∨ before.getLast? = some lineFeed

instance (before : List UInt8) : Decidable (AtLineStart before) := inferInstanceAs (Decidable (_ ∨ _))

theorem lines_ne_nil (some : s ≠ []) : lines s ≠ [] := by
  cases s with
  | nil => exact absurd rfl some
  | cons b rest =>
    rw [lines]
    split
    · simp
    · split <;> simp

theorem atLineStart_cons {a : UInt8} : AtLineStart (a :: s) ↔ (s = [] ∧ a = lineFeed) ∨ (s ≠ [] ∧ AtLineStart s) := by
  cases s <;> simp [AtLineStart]

/-- What begins a line keeps its lines, and leaves those in front of it as they are. -/
theorem lines_append (start : AtLineStart s) (t : List UInt8) : lines (s ++ t) = lines s ++ lines t := by
  induction s with
  | nil => rfl
  | cons b s ih =>
    rcases atLineStart_cons.mp start with ⟨rfl, rfl⟩ | ⟨some, start⟩
    · simp [lines]
    · obtain ⟨first, more, parts⟩ := List.exists_cons_of_ne_nil (lines_ne_nil some)
      rw [List.cons_append, lines, lines, ih start, parts]
      split <;> simp

/-- The last line of bytes that are not ended goes on in what follows. -/
theorem lines_append_of_unended (unended : ¬ AtLineStart s) :
    ∃ init last, lines s = init ++ [last] ∧ last ≠ [] ∧
      ∀ {t}, t ≠ [] → ∃ first more, lines t = first :: more ∧ lines (s ++ t) = init ++ (last ++ first) :: more := by
  induction s with
  | nil => exact absurd (.inl rfl) unended
  | cons b s ih =>
    rw [atLineStart_cons, not_or, not_and, not_and] at unended
    obtain ⟨single, later⟩ := unended
    -- The line that goes on is the one of the last byte; the bytes in front of that one only add to the lines.
    cases s with
    | nil =>
      have other : b ≠ lineFeed := single rfl
      refine ⟨[], [b], by simp [lines, other], by simp, fun {t} some => ?_⟩
      obtain ⟨first, more, parts⟩ := List.exists_cons_of_ne_nil (lines_ne_nil some)
      exact ⟨first, more, parts, by simp [lines, other, parts]⟩
    | cons c s =>
      obtain ⟨init, last, parts, filled, goesOn⟩ := ih (later (by simp))
      by_cases feed : b = lineFeed
      · refine ⟨[] :: init, last, by rw [lines, if_pos feed, parts, List.cons_append], filled, fun {t} some => ?_⟩
        obtain ⟨first, more, rest, joined⟩ := goesOn some
        exact ⟨first, more, rest, by rw [List.cons_append, lines, if_pos feed, joined, List.cons_append]⟩
      · cases init with
        | nil =>
          refine ⟨[], b :: last, by rw [lines, if_neg feed, parts]; rfl, by simp, fun {t} some => ?_⟩
          obtain ⟨first, more, rest, joined⟩ := goesOn some
          exact ⟨first, more, rest, by rw [List.cons_append, lines, if_neg feed, joined]; rfl⟩
        | cons l init =>
          refine ⟨(b :: l) :: init, last, by rw [lines, if_neg feed, parts]; rfl, filled, fun {t} some => ?_⟩
          obtain ⟨first, more, rest, joined⟩ := goesOn some
          exact ⟨first, more, rest, by rw [List.cons_append, lines, if_neg feed, joined]; rfl⟩

theorem lines_concat_lineFeed (unended : ¬ AtLineStart s) : lines (s ++ [lineFeed]) = lines s := by
  obtain ⟨init, last, parts, -, goesOn⟩ := lines_append_of_unended unended
  obtain ⟨first, more, rest, joined⟩ := goesOn (t := [lineFeed]) (by simp)
  simp only [lines, if_true, List.cons.injEq] at rest
  obtain ⟨rfl, rfl⟩ := rest
  rw [joined, parts, List.append_nil]

theorem atLineStart_append (start : AtLineStart s) (later : AtLineStart t) : AtLineStart (s ++ t) := by
  rcases later with rfl | fed
  · rwa [List.append_nil]
  · exact .inr (by rw [List.getLast?_append, fed]; rfl)

/-! ## Ended contents -/

theorem atLineStart_ended (s : List UInt8) : AtLineStart (ended s) := by
  unfold ended
  split
  case isTrue fed => exact .inr fed
  case isFalse => exact .inr (by simp)

theorem ended_ne_nil (some : s ≠ []) : ended s ≠ [] := by
  unfold ended
  split <;> simp [some]

/-- Ending the last line adds none. -/
theorem lines_ended (some : s ≠ []) : lines (ended s) = lines s := by
  unfold ended
  split
  case isTrue => rfl
  case isFalse unended => exact lines_concat_lineFeed (by simp [AtLineStart, some, unended])

/-! ## Sources -/

/-- A block of lines that a source contributes: its own, or only blank ones if it is empty. -/
def Contributes (source : List UInt8) (block : List (List UInt8)) : Prop :=
  (source ≠ [] → block = lines source) ∧ (source = [] → ∀ line ∈ block, line = [])

theorem contributes_lines (s : List UInt8) : Contributes s (lines s) :=
  ⟨fun _ => rfl, by rintro rfl line ⟨⟩⟩

theorem contributes_ended (s : List UInt8) : Contributes s (lines (ended s)) := by
  refine ⟨lines_ended, ?_⟩
  rintro rfl line among
  exact List.mem_singleton.mp among

/-- Sources, each a part of what is put together: every source begins a line where it is put, unless it is empty, and
the lines are those of the sources one after another. -/
structure OnLines (given placed : List (List UInt8)) : Prop where
  starts : ∀ i source, given[i]? = some source → source ≠ [] → AtLineStart (placed.take i).flatten
  lines_eq : ∃ blocks, List.Forall₂ Contributes given blocks ∧ lines placed.flatten = blocks.flatten

theorem onLines_nil : OnLines [] [] := ⟨by simp, [], .nil, rfl⟩

/-- The last source need not be ended. -/
theorem onLines_singleton (s : List UInt8) : OnLines [s] [s] where
  starts i source there some := by
    cases i with
    | zero => exact .inl rfl
    | succ i => simp at there
  lines_eq := ⟨[lines s], .cons (contributes_lines s) .nil, by simp⟩

/-- A source that is ended leaves the lines behind it as they are. -/
theorem OnLines.cons {source part : List UInt8} (start : AtLineStart part) (block : Contributes source (lines part))
    (rest : OnLines given placed) : OnLines (source :: given) (part :: placed) where
  starts i source' there some := by
    cases i with
    | zero => exact .inl rfl
    | succ i =>
      rw [List.take_succ_cons, List.flatten_cons]
      exact atLineStart_append start (rest.starts i source' there some)
  lines_eq := by
    obtain ⟨blocks, contributed, whole⟩ := rest.lines_eq
    exact ⟨lines part :: blocks, .cons block contributed, by
      rw [List.flatten_cons, lines_append start, whole, List.flatten_cons]⟩

/-- An empty source behind one that is not ended ends it. -/
theorem OnLines.cons_nil (unended : ¬ AtLineStart s) (rest : OnLines given placed) :
    OnLines (s :: [] :: given) (s :: [lineFeed] :: placed) := by
  have start : AtLineStart (s ++ [lineFeed]) := .inr (by simp)
  constructor
  · intro i source there some
    match i with
    | 0 => exact .inl rfl
    | 1 => exact absurd (Option.some.inj there).symm some
    | i + 2 =>
      rw [List.take_succ_cons, List.take_succ_cons, List.flatten_cons, List.flatten_cons, ← List.append_assoc]
      exact atLineStart_append start (rest.starts i source there some)
  · obtain ⟨blocks, contributed, whole⟩ := rest.lines_eq
    refine ⟨lines s :: [] :: blocks, .cons (contributes_lines s) (.cons (contributes_lines []) contributed), ?_⟩
    rw [List.flatten_cons, List.flatten_cons, ← List.append_assoc, lines_append start, whole,
      lines_concat_lineFeed unended, List.flatten_cons, List.flatten_cons, List.nil_append]

/-! ## What is loaded -/

/-- The contents of the named file and of the certificates of the directory, in the order in which they are taken. -/
def sources (file : Option (List UInt8)) (entries : List (String × List UInt8)) : List (List UInt8) :=
  file.toList ++ entries.map (·.2)

/-- What is put together of them: the named file as it is, the certificates of the directory ended. -/
def parts (file : Option (List UInt8)) (entries : List (String × List UInt8)) : List (List UInt8) :=
  file.toList ++ entries.map fun entry => ended entry.2

/-- What stands in a file, if one is named. -/
def FileOf (fs : Files) (path? : Option String) (file : Option (List UInt8)) : Prop :=
  match path? with
  | none => file = none
  | some path => ∃ contents, fs.read path = .ok contents ∧ file = some contents.data.toList

/-- What stands in the certificates of a directory, if one is named. -/
def EntriesOf (fs : Files) (path? : Option String) (entries : List (String × List UInt8)) : Prop :=
  match path? with
  | none => entries = []
  | some path => CertificatesOf fs path entries

/-- What stands in the named file and in the certificates of the named directory. -/
structure Sources (fs : Files) (server : Config.ServerCert) (file : Option (List UInt8))
    (entries : List (String × List UInt8)) : Prop where
  file : FileOf fs server.caFile file
  directory : EntriesOf fs server.caPath entries

theorem FileOf.unique {path? : Option String} {file file' : Option (List UInt8)} (named : FileOf fs path? file)
    (named' : FileOf fs path? file') : file = file' := by
  cases path? with
  | none => exact Eq.trans named (Eq.symm named')
  | some path =>
    obtain ⟨contents, read, rfl⟩ := named
    obtain ⟨contents', read', rfl⟩ := named'
    rw [read, Except.ok.injEq] at read'
    rw [read']

theorem EntriesOf.unique {path? : Option String} {entries entries' : List (String × List UInt8)}
    (held : EntriesOf fs path? entries) (held' : EntriesOf fs path? entries') : entries = entries' := by
  cases path? with
  | none => exact Eq.trans held (Eq.symm held')
  | some path => exact CertificatesOf.unique held held'

/-- There is no doubt about the sources. -/
theorem Sources.unique {file file' : Option (List UInt8)} {entries entries' : List (String × List UInt8)}
    (taken : Sources fs server file entries) (taken' : Sources fs server file' entries') :
    file = file' ∧ entries = entries' :=
  ⟨taken.file.unique taken'.file, taken.directory.unique taken'.directory⟩

/-- The named file does not end its last line, and the first certificate of the directory goes on in it. -/
def Joins (file : Option (List UInt8)) (entries : List (String × List UInt8)) : Prop :=
  ∃ first name second rest, file = some first ∧ entries = (name, second) :: rest ∧ ¬ AtLineStart first ∧ second ≠ []

theorem exists_fileOf {path? : Option String} (read : optional (contents fs) path? = .ok bytes) :
    ∃ file, FileOf fs path? file ∧ bytes = file.toList.flatten := by
  cases path? with
  | none =>
    cases read
    exact ⟨none, rfl, rfl⟩
  | some path =>
    cases there : fs.read path with
    | error fault =>
      rw [optional, contents, there] at read
      cases read
    | ok contents =>
      rw [optional, Bundle.contents, there] at read
      cases read
      exact ⟨some contents.data.toList, ⟨contents, there, rfl⟩, by simp⟩

theorem exists_entriesOf (distinct : fs.Distinct) {path? : Option String}
    (read : optional (directoryContents fs) path? = .ok bytes) :
    ∃ entries, EntriesOf fs path? entries ∧ bytes = (entries.map fun entry => ended entry.2).flatten := by
  cases path? with
  | none =>
    cases read
    exact ⟨[], rfl, rfl⟩
  | some path =>
    obtain ⟨entries, taken, made⟩ := bind_eq_ok_iff.mp read
    cases made
    exact ⟨entries, certificatesOf_of_directoryEntries distinct taken, List.flatMap_def ..⟩

/-- What vouches for the broker is what stands in the file, followed by what stands in the directory. -/
theorem ca_of_load (loaded : load fs server client = .ok b) :
    ∃ front behind, optional (contents fs) server.caFile = .ok front ∧
      optional (directoryContents fs) server.caPath = .ok behind ∧ b.ca = front ++ behind := by
  obtain ⟨front, first, loaded⟩ := bind_eq_ok_iff.mp loaded
  obtain ⟨behind, second, loaded⟩ := bind_eq_ok_iff.mp loaded
  refine ⟨front, behind, first, second, ?_⟩
  dsimp only at loaded
  split at loaded
  · cases loaded
  · cases client with
    | none =>
      cases loaded
      rfl
    | some k =>
      obtain ⟨shown, -, loaded⟩ := bind_eq_ok_iff.mp loaded
      cases loaded
      rfl

/-- What is loaded is put together of the sources. -/
theorem sources_of_load (distinct : fs.Distinct) (loaded : load fs server client = .ok b) :
    ∃ file entries, Sources fs server file entries ∧ b.ca = (parts file entries).flatten := by
  obtain ⟨front, behind, first, second, whole⟩ := ca_of_load loaded
  obtain ⟨file, named, rfl⟩ := exists_fileOf first
  obtain ⟨entries, held, rfl⟩ := exists_entriesOf distinct second
  exact ⟨file, entries, ⟨named, held⟩, by rw [whole, parts, List.flatten_append]⟩

/-- The certificates of a directory keep their lines to themselves. -/
theorem onLines_entries (entries : List (String × List UInt8)) :
    OnLines (entries.map (·.2)) (entries.map fun entry => ended entry.2) := by
  induction entries with
  | nil => exact onLines_nil
  | cons entry rest ih => exact ih.cons (atLineStart_ended entry.2) (contributes_ended entry.2)

/-- The sources keep their lines to themselves, unless the named file is joined to the first certificate behind it. -/
theorem onLines_iff {file : Option (List UInt8)} {entries : List (String × List UInt8)} :
    OnLines (sources file entries) (parts file entries) ↔ ¬ Joins file entries := by
  constructor
  · rintro kept ⟨first, name, second, rest, rfl, rfl, unended, some⟩
    -- The second source is put where the first one ends, and that is no beginning of a line.
    exact unended (by simpa [parts] using kept.starts 1 second (by simp [sources]) some)
  · intro apart
    cases file with
    | none => exact onLines_entries entries
    | some first =>
      by_cases start : AtLineStart first
      · exact (onLines_entries entries).cons start (contributes_lines first)
      · cases entries with
        | nil => exact onLines_singleton first
        | cons entry rest =>
          obtain ⟨name, second⟩ := entry
          by_cases none : second = []
          · subst none
            exact (onLines_entries rest).cons_nil start
          · exact absurd ⟨first, name, second, rest, rfl, rfl, start, none⟩ apart

theorem lines_flatten_entries (entries : List (String × List UInt8)) :
    lines (entries.map fun entry => ended entry.2).flatten = entries.flatMap fun entry => lines (ended entry.2) := by
  induction entries with
  | nil => rfl
  | cons entry rest ih =>
    rw [List.map_cons, List.flatten_cons, lines_append (atLineStart_ended _), ih, List.flatMap_cons]

/-- The lines of what is loaded are those of its sources, and every source begins a line, exactly if the named file is
not joined to the first certificate of the directory. If it is, its last line and the first line of the certificate have
become one, and all other lines are left as they are. -/
theorem lines_of_load (distinct : fs.Distinct) (loaded : load fs server client = .ok b) :
    ∃ file entries, Sources fs server file entries ∧ b.ca = (parts file entries).flatten ∧
      (OnLines (sources file entries) (parts file entries) ↔ ¬ Joins file entries) ∧
      ∀ first name second rest, file = some first → entries = (name, second) :: rest → ¬ AtLineStart first →
        second ≠ [] → ∃ init last head tail, lines first = init ++ [last] ∧ last ≠ [] ∧ lines second = head :: tail ∧
          lines b.ca = init ++ (last ++ head) :: (tail ++ rest.flatMap fun entry => lines (ended entry.2)) := by
  obtain ⟨file, entries, taken, whole⟩ := sources_of_load distinct loaded
  refine ⟨file, entries, taken, whole, onLines_iff, ?_⟩
  rintro first name second rest rfl rfl unended some
  obtain ⟨init, last, ending, filled, goesOn⟩ := lines_append_of_unended unended
  obtain ⟨head, tail, beginning⟩ := List.exists_cons_of_ne_nil (lines_ne_nil some)
  obtain ⟨head', tail', behind, joined⟩ :=
    goesOn (t := ended second ++ (rest.map fun entry => ended entry.2).flatten) (by simp [ended_ne_nil some])
  rw [lines_append (atLineStart_ended second), lines_ended some, lines_flatten_entries, beginning, List.cons_append,
    List.cons.injEq] at behind
  obtain ⟨rfl, rfl⟩ := behind
  refine ⟨init, last, head, tail, ending, filled, beginning, ?_⟩
  rw [whole, ← joined, parts, Option.toList_some, List.singleton_append, List.flatten_cons, List.map_cons,
    List.flatten_cons]

/-- A file, and a directory with one certificate, which is ended. -/
def chain (file : ByteArray) : Files :=
  (Files.empty.addFile "ca.pem" file).addFile "certs/b.pem" ⟨#[66, 66, 66, 10]⟩

/-- Both are named. -/
def both : Config.ServerCert := ⟨some "ca.pem", some "certs"⟩

theorem distinct_chain (file : ByteArray) : (chain file).Distinct :=
  Files.distinct_addFile (Files.distinct_addFile Files.distinct_empty _ _) _ _

theorem sources_chain_unended :
    Sources (chain ⟨#[65, 65, 65]⟩) both (some [65, 65, 65]) [("b.pem", [66, 66, 66, 10])] where
  file := ⟨⟨#[65, 65, 65]⟩, by rfl, rfl⟩
  directory := certificatesOf_of_directoryEntries (distinct_chain _) (by cbv)

theorem sources_chain_ended :
    Sources (chain ⟨#[65, 65, 65, 10]⟩) both (some [65, 65, 65, 10]) [("b.pem", [66, 66, 66, 10])] where
  file := ⟨⟨#[65, 65, 65, 10]⟩, by rfl, rfl⟩
  directory := certificatesOf_of_directoryEntries (distinct_chain _) (by cbv)

/-- Behind a file that is ended the certificate begins a line. -/
theorem lines_of_load_ended :
    load (chain ⟨#[65, 65, 65, 10]⟩) both none = .ok ⟨[65, 65, 65, 10, 66, 66, 66, 10], none⟩ ∧
      OnLines [[65, 65, 65, 10], [66, 66, 66, 10]] [[65, 65, 65, 10], [66, 66, 66, 10]] := by
  have loaded : load (chain ⟨#[65, 65, 65, 10]⟩) both none = .ok ⟨[65, 65, 65, 10, 66, 66, 66, 10], none⟩ := by cbv
  obtain ⟨file, entries, taken, -, kept, -⟩ := lines_of_load (distinct_chain ⟨#[65, 65, 65, 10]⟩) loaded
  obtain ⟨rfl, rfl⟩ := taken.unique sources_chain_ended
  refine ⟨loaded, kept.mpr ?_⟩
  rintro ⟨first, name, second, rest, ⟨⟩, -, unended, -⟩
  exact unended (by decide)

/-- Behind a file that is not ended the certificate goes on in its last line, and no lines are left that could be those
of the two. -/
theorem certificates_joined :
    load (chain ⟨#[65, 65, 65]⟩) both none = .ok ⟨[65, 65, 65, 66, 66, 66, 10], none⟩ ∧
      Sources (chain ⟨#[65, 65, 65]⟩) both (some [65, 65, 65]) [("b.pem", [66, 66, 66, 10])] ∧
      lines [65, 65, 65, 66, 66, 66, 10] = [[65, 65, 65, 66, 66, 66]] ∧
      ¬ ∃ blocks, List.Forall₂ Contributes [[65, 65, 65], [66, 66, 66, 10]] blocks ∧
        lines [65, 65, 65, 66, 66, 66, 10] = blocks.flatten := by
  refine ⟨by cbv, sources_chain_unended, by decide, ?_⟩
  rintro ⟨blocks, contributed, whole⟩
  obtain ⟨first, behind, own, others, rfl⟩ := List.forall₂_cons_left_iff.mp contributed
  obtain ⟨second, none, own', rest, rfl⟩ := List.forall₂_cons_left_iff.mp others
  obtain rfl := List.forall₂_nil_left_iff.mp rest
  rw [own.1 (by decide), own'.1 (by decide)] at whole
  revert whole
  decide

end BrokerSession.Security.Bundle
