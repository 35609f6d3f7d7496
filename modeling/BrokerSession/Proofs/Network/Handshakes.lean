import BrokerSession.Proofs.Network.Traffic
import BrokerSession.Proofs.Session.Routing
import Mathlib.Data.Fin.VecNotation

/-!
# Every publish is acknowledged once

A publish without a number is complete as soon as it is written. One with a number goes through a handshake with the
broker, of two packets or of four. Many handshakes are under way at the same time, among packets of the same kinds and
with the same numbers that belong to the messages of others. An application hears of a publish when the last packet of
its handshake has passed, and at no other time.

## Main definitions

* `Handshake` - the handshake of a publish, and what passes on the connection in its course
* `Interleaved` - traffic in which handshakes and other packets are mixed
* `completed` - the publishes whose handshakes are complete, in the order of their last packets
* `Listener.hears` - what an application is told of traffic

## Main results

* `Handshake.acknowledged?_of_split` - of a handshake the last packet is told, and no other
* `mem_completedAfter_iff`, `nodup_completedAfter` - each complete handshake is completed once
* `Listener.published_of_interleaved` - at every moment an application has heard of the complete handshakes, in order
-/

namespace BrokerSession

/-! ## Handshakes -/

/-- The handshake of a publish. Its number is not zero if the broker is to acknowledge it. -/
inductive Handshake where
  | atMostOnce
  | atLeastOnce (id : MessageId) (counted : id ≠ 0)
  | exactlyOnce (id : MessageId) (counted : id ≠ 0)

namespace Handshake

/-- The number of the publish. -/
def id : Handshake → MessageId
  | atMostOnce => 0
  | atLeastOnce id _ => id
  | exactlyOnce id _ => id

/-- What passes on the connection in the course of a handshake, in order. -/
def outcomes : Handshake → List Outcome
  | atMostOnce => [.written (.publish 0)]
  | atLeastOnce id _ => [.written (.publish id), .arrived (.pubAck id)]
  | exactlyOnce id _ =>
    [.written (.publish id), .arrived (.pubRec id), .written (.pubRel id), .arrived (.pubComp id)]

end Handshake

namespace Outcome

/-- Whether an outcome is of a kind that occurs in the handshake of a publish. -/
def isStep : Outcome → Bool
  | written (.publish _) => true
  | arrived (.pubAck _) => true
  | arrived (.pubRec _) => true
  | written (.pubRel _) => true
  | arrived (.pubComp _) => true
  | _ => false

/-- The number of the publish that an outcome is read as the end of. -/
def acknowledged? (o : Outcome) : Option MessageId :=
  (o.event?.bind EngineEvent.notice?).bind Notice.published?

theorem acknowledged?_of_notice {o : Outcome} {e : EngineEvent} {n : Notice} (reported : o.event? = some e)
    (read : e.notice? = some n) : o.acknowledged? = n.published? := by
  rw [acknowledged?, reported, Option.bind_some, read, Option.bind_some]

/-- Nothing but the steps of handshakes is read as the end of one. -/
theorem acknowledged?_of_foreign {o : Outcome} (foreign : o.isStep = false) : o.acknowledged? = none := by
  cases o with
  | arrived p =>
    cases p with
    | pubAck | pubComp => cases foreign
    | publish topic qos id retain dup payload =>
      simp only [acknowledged?, event?, Packet.event?, Option.bind_some, EngineEvent.notice?]
      cases Inbound.toMessage? ⟨id.toNat, some topic.toByteArray, some payload, qos.level, retain⟩ <;> rfl
    | subAck id results => exact acknowledged?_of_notice rfl (notice?_granted id results)
    | unsubAck id => exact acknowledged?_of_notice rfl (notice?_unsubscribe (messageId?_toNat id))
    | _ => rfl
  | written w =>
    cases w with
    | publish => cases foreign
    | _ => rfl
  | failed e => cases e <;> rfl

end Outcome

/-- Of a handshake the last packet is read as its end, and no other. -/
theorem Handshake.acknowledged?_of_split {h : Handshake} {before after : List Outcome} {o : Outcome}
    (split : before ++ o :: after = h.outcomes) :
    o.acknowledged? = if after = [] then some h.id else none := by
  have silent {id : MessageId} (counted : id ≠ 0) : (Outcome.written (.publish id)).acknowledged? = none := by
    have unreported : (Outcome.written (.publish id)).event? = none := if_neg counted
    rw [Outcome.acknowledged?, unreported]
    rfl
  have ends {o : Outcome} {id : MessageId} (reported : o.event? = some (.publish id.toNat)) :
      o.acknowledged? = some id :=
    Outcome.acknowledged?_of_notice reported (notice?_publish (messageId?_toNat id))
  -- The packet stands at one of the places of the handshake, of which there are four at most.
  cases h with
  | atMostOnce =>
    rcases before with _ | ⟨a, before⟩
    · obtain ⟨rfl, rfl⟩ : o = .written (.publish 0) ∧ after = [] := by simpa [outcomes] using split
      exact @ends _ 0 rfl
    · simp [outcomes] at split
  | atLeastOnce id counted =>
    rcases before with _ | ⟨a, _ | ⟨b, before⟩⟩
    · obtain ⟨rfl, rfl⟩ : o = .written (.publish id) ∧ after = [.arrived (.pubAck id)] := by
        simpa [outcomes] using split
      exact silent counted
    · obtain ⟨-, rfl, rfl⟩ : a = .written (.publish id) ∧ o = .arrived (.pubAck id) ∧ after = [] := by
        simpa [outcomes] using split
      exact ends rfl
    · simp [outcomes] at split
  | exactlyOnce id counted =>
    rcases before with _ | ⟨a, _ | ⟨b, _ | ⟨c, _ | ⟨d, before⟩⟩⟩⟩
    · obtain ⟨rfl, rfl⟩ : o = .written (.publish id) ∧
          after = [.arrived (.pubRec id), .written (.pubRel id), .arrived (.pubComp id)] := by
        simpa [outcomes] using split
      exact silent counted
    · obtain ⟨-, rfl, rfl⟩ : a = .written (.publish id) ∧ o = .arrived (.pubRec id) ∧
          after = [.written (.pubRel id), .arrived (.pubComp id)] := by
        simpa [outcomes] using split
      rfl
    · obtain ⟨-, -, rfl, rfl⟩ : a = .written (.publish id) ∧ b = .arrived (.pubRec id) ∧
          o = .written (.pubRel id) ∧ after = [.arrived (.pubComp id)] := by
        simpa [outcomes] using split
      rfl
    · obtain ⟨-, -, -, rfl, rfl⟩ : a = .written (.publish id) ∧ b = .arrived (.pubRec id) ∧
          c = .written (.pubRel id) ∧ o = .arrived (.pubComp id) ∧ after = [] := by
        simpa [outcomes] using split
      exact ends rfl
    · simp [outcomes] at split

/-! ## Traffic -/

variable {ι : Type} [DecidableEq ι]

/-- What of some traffic belongs to a publish. -/
def share (i : ι) (traffic : List (Option ι × Outcome)) : List Outcome :=
  (traffic.filter (·.1 = some i)).map Prod.snd

/-- Whether traffic mixes the handshakes of publishes, some of which may not be complete, with packets that belong to
none of them. -/
structure Interleaved (publishes : ι → Handshake) (traffic : List (Option ι × Outcome)) : Prop where
  begun : ∀ i, share i traffic <+: (publishes i).outcomes
  foreign : ∀ o, (none, o) ∈ traffic → o.isStep = false

/-- The publish whose handshake a packet completes, after some traffic. -/
def completion? (publishes : ι → Handshake) (past : List (Option ι × Outcome)) (x : Option ι × Outcome) : Option ι :=
  x.1.filter fun i => share i (past ++ [x]) = (publishes i).outcomes

/-- The publishes whose handshakes later traffic completes, in the order of their last packets. -/
def completedAfter (publishes : ι → Handshake) (past : List (Option ι × Outcome)) :
    List (Option ι × Outcome) → List ι
  | [] => []
  | x :: later => (completion? publishes past x).toList ++ completedAfter publishes (past ++ [x]) later

/-- The publishes whose handshakes are complete, in the order of their last packets. -/
def completed (publishes : ι → Handshake) (traffic : List (Option ι × Outcome)) : List ι :=
  completedAfter publishes [] traffic

section Traffic

variable {publishes : ι → Handshake} {past later early late : List (Option ι × Outcome)} {x : Option ι × Outcome}
  {i : ι}

@[simp] theorem share_append : share i (past ++ later) = share i past ++ share i later := by
  simp [share]

theorem share_singleton (i : ι) (x : Option ι × Outcome) : share i [x] = if x.1 = some i then [x.2] else [] := by
  by_cases own : x.1 = some i <;> simp [share, own]

theorem Interleaved.of_append (fits : Interleaved publishes (past ++ later)) : Interleaved publishes past where
  begun i := by
    have whole := fits.begun i
    rw [share_append] at whole
    exact (List.prefix_append ..).trans whole
  foreign o there := fits.foreign o (List.mem_append_left _ there)

theorem completion?_eq_some_iff :
    completion? publishes past x = some i ↔ x.1 = some i ∧ share i (past ++ [x]) = (publishes i).outcomes := by
  simp [completion?, Option.filter_eq_some_iff]

/-- A complete handshake stays complete. -/
theorem Interleaved.whole (fits : Interleaved publishes (past ++ later))
    (complete : share i past = (publishes i).outcomes) : share i (past ++ later) = (publishes i).outcomes := by
  have begun := fits.begun i
  rw [share_append, complete] at begun
  rw [share_append, complete]
  exact begun.eq_of_length_le (by simp)

theorem completedAfter_append :
    completedAfter publishes past (early ++ late) =
      completedAfter publishes past early ++ completedAfter publishes (past ++ early) late := by
  induction early generalizing past with
  | nil => simp [completedAfter]
  | cons x early ih => simp [completedAfter, ih]

/-- A handshake is completed by a packet of its own, and was not complete before. -/
theorem completion?_iff_of_incomplete (incomplete : share i past ≠ (publishes i).outcomes) :
    completion? publishes past x = some i ↔ share i (past ++ [x]) = (publishes i).outcomes := by
  refine completion?_eq_some_iff.trans ⟨And.right, fun complete => ⟨?_, complete⟩⟩
  by_contra other
  rw [share_append, share_singleton, if_neg other, List.append_nil] at complete
  exact incomplete complete

theorem incomplete_of_completion? (completes : completion? publishes past x = some i) :
    share i past ≠ (publishes i).outcomes := by
  intro complete
  obtain ⟨own, whole⟩ := completion?_eq_some_iff.mp completes
  rw [share_append, share_singleton, if_pos own, complete] at whole
  simp at whole

/-- The handshakes that later traffic completes are those that are complete after it and were not before. -/
theorem mem_completedAfter_iff (fits : Interleaved publishes (past ++ later)) :
    i ∈ completedAfter publishes past later ↔
      share i (past ++ later) = (publishes i).outcomes ∧ share i past ≠ (publishes i).outcomes := by
  induction later generalizing past with
  | nil => simp [completedAfter]
  | cons x later ih =>
    have regroup : past ++ x :: later = past ++ [x] ++ later := by simp
    rw [regroup] at fits ⊢
    rw [completedAfter, List.mem_append, Option.mem_toList, ih fits]
    constructor
    · rintro (completes | ⟨whole, incomplete⟩)
      · exact ⟨fits.whole (completion?_eq_some_iff.mp completes).2, incomplete_of_completion? completes⟩
      · refine ⟨whole, fun before => incomplete ?_⟩
        exact fits.of_append.whole before
    · rintro ⟨whole, incomplete⟩
      by_cases now : share i (past ++ [x]) = (publishes i).outcomes
      · exact .inl ((completion?_iff_of_incomplete incomplete).mpr now)
      · exact .inr ⟨whole, now⟩

/-- No handshake is completed twice. -/
theorem nodup_completedAfter (fits : Interleaved publishes (past ++ later)) :
    (completedAfter publishes past later).Nodup := by
  induction later generalizing past with
  | nil => exact .nil
  | cons x later ih =>
    have regroup : past ++ x :: later = past ++ [x] ++ later := by simp
    rw [regroup] at fits
    rw [completedAfter]
    cases completes : completion? publishes past x with
    | none => exact ih fits
    | some i =>
      refine List.nodup_cons.mpr ⟨fun again => ?_, ih fits⟩
      exact ((mem_completedAfter_iff fits).mp again).2 (completion?_eq_some_iff.mp completes).2

/-- A packet is read as the end of the handshake that it completes, and as nothing if it completes none. -/
theorem Interleaved.acknowledged?_eq (fits : Interleaved publishes (past ++ [x])) :
    x.2.acknowledged? = (completion? publishes past x).map fun i => (publishes i).id := by
  obtain ⟨owner, o⟩ := x
  cases owner with
  | none => exact Outcome.acknowledged?_of_foreign (fits.foreign o (by simp))
  | some i =>
    have begun := fits.begun i
    rw [share_append, share_singleton, if_pos rfl] at begun
    obtain ⟨after, split⟩ := begun
    rw [List.append_assoc, List.singleton_append] at split
    -- It completes its handshake exactly if nothing of it is left.
    have last : share i past ++ [o] = (publishes i).outcomes ↔ after = [] := by
      rw [← split]
      simp
    have completes : completion? publishes past (some i, o) = if after = [] then some i else none := by
      simp [completion?, Option.filter, share_singleton, last]
    rw [(publishes i).acknowledged?_of_split split, completes]
    split <;> rfl

end Traffic

/-! ## What an application is told -/

namespace Listener

variable {l : Listener}

/-- The standing that an outcome leaves. -/
def moved (l : Listener) (s : Standing) (o : Outcome) : Standing := o.event?.elim s fun e => (l.handle s e).1

/-- What the application is told of the outcomes of a connection, one after another. -/
def hears (l : Listener) (s : Standing) : List Outcome → List Notice
  | [] => []
  | o :: os => l.told s o ++ l.hears (l.moved s o) os

/-- An application that asked for them is told about all ends of handshakes. -/
theorem published_of_told (asked : .publish ∈ l.wanted) (s : Standing) (o : Outcome) :
    (l.told s o).filterMap Notice.published? = o.acknowledged?.toList := by
  rw [told_eq, Outcome.acknowledged?]
  cases o.event?.bind EngineEvent.notice? with
  | none => rfl
  | some n =>
    cases n with
    | published id =>
      have wanted : l.wants (.published id) = true := by simpa [wants, Notice.kind] using asked
      rw [Option.toList_some, List.filter_cons_of_pos wanted]
      rfl
    | _ =>
      rw [Option.toList_some, List.filterMap_filter]
      simp [Notice.published?]

/-- Later traffic tells of the handshakes that it completes. -/
theorem published_of_hears {publishes : ι → Handshake} {past later : List (Option ι × Outcome)}
    (asked : .publish ∈ l.wanted) (fits : Interleaved publishes (past ++ later)) (s : Standing) :
    (l.hears s (later.map Prod.snd)).filterMap Notice.published? =
      (completedAfter publishes past later).map fun i => (publishes i).id := by
  induction later generalizing past s with
  | nil => rfl
  | cons x later ih =>
    have regroup : past ++ x :: later = past ++ [x] ++ later := by simp
    rw [regroup] at fits
    rw [List.map_cons, hears, List.filterMap_append, published_of_told asked, ih fits, fits.of_append.acknowledged?_eq,
      completedAfter, List.map_append, Option.toList_map]

/-- Every publish is acknowledged once. Whatever handshakes are mixed, complete or not, and with whatever other packets:
at every moment the application has been told about the publishes whose handshakes are complete by then, each once and
under its number, in the order in which their last packets have passed, and about nothing else. -/
theorem published_of_interleaved {publishes : ι → Handshake} {traffic : List (Option ι × Outcome)}
    (asked : .publish ∈ l.wanted) (fits : Interleaved publishes traffic) (s : Standing) :
    (completed publishes traffic).Nodup ∧
    ∀ early late, traffic = early ++ late →
      (l.hears s (early.map Prod.snd)).filterMap Notice.published? =
        (completed publishes early).map (fun i => (publishes i).id) ∧
      completed publishes early <+: completed publishes traffic ∧
      ∀ i, i ∈ completed publishes early ↔ share i early = (publishes i).outcomes := by
  have whole : Interleaved publishes ([] ++ traffic) := fits
  refine ⟨nodup_completedAfter whole, ?_⟩
  rintro early late rfl
  have sofar : Interleaved publishes ([] ++ early) := fits.of_append
  refine ⟨published_of_hears asked sofar s, ?_, fun i => ?_⟩
  · rw [completed, completed, completedAfter_append]
    exact List.prefix_append ..
  · have unbegun : share i [] ≠ (publishes i).outcomes := by
      cases publishes i <;> exact nofun
    rw [completed, mem_completedAfter_iff sofar, List.nil_append]
    exact and_iff_left unbegun

/-- Two acknowledged publishes, one that is sent once and forgotten, and one whose acknowledgement never comes, while a
message of somebody else goes through a handshake of its own under one of their numbers. -/
theorem published_of_interleaved_mixed :
    let l : Listener := ⟨"sensor", Notice.Kind.all, true⟩
    let publishes : Fin 4 → Handshake := ![.atMostOnce, .atLeastOnce 1 (by decide), .exactlyOnce 2 (by decide),
      .atLeastOnce 3 (by decide)]
    let traffic : List (Option (Fin 4) × Outcome) := [
      (none, .arrived (.publish "alarm" .exactlyOnce 1 false false .empty)), (some 1, .written (.publish 1)),
      (none, .written (.pubRec 1)), (some 2, .written (.publish 2)), (some 3, .written (.publish 3)),
      (none, .arrived (.pubRel 1)), (some 2, .arrived (.pubRec 2)), (none, .written (.pubComp 1)),
      (some 0, .written (.publish 0)), (some 2, .written (.pubRel 2)), (none, .arrived (.subAck 4 [some .atMostOnce])),
      (some 2, .arrived (.pubComp 2)), (none, .arrived .pingResp), (some 1, .arrived (.pubAck 1))]
    .publish ∈ l.wanted ∧ Interleaved publishes traffic ∧
      (l.hears default (traffic.map Prod.snd)).filterMap Notice.published? = [0, 2, 1] := by
  intro l publishes traffic
  have asked : .publish ∈ l.wanted := by decide
  have fits : Interleaved publishes traffic := ⟨by decide +kernel, by simp [traffic, Outcome.isStep]⟩
  have told := ((published_of_interleaved asked fits default).2 traffic [] (List.append_nil _).symm).1
  refine ⟨asked, fits, told.trans ?_⟩
  decide +kernel

end Listener

end BrokerSession
