/-
The progress that a transfer reports.

* `share`: the percentage that is done, rounded down; `percent_of_lt`: this is the percentage as far
  as the product has 64 bits;
* `newMaxima`: the values above all before them; `Progress.Reports`: a reporter that has reported
  these; `Progress.Reports.run`: **they are reported on any updates, until one overflows**;
* `Log`: the exchanges of a transfer, each with what was reported on it; `Log.InOrder`: its
  reports increase and are true;
* `Justified`: the die is up to date, or has accepted the setup and acknowledged this share;
* `Accounts`: a transfer and its log; `Accounts.answer`: **one answer keeps the log in order**;
  `Accounts.closes`: so do all answers to the end;
* `Honest`, `Transfer.reports_honest`: **what a transfer reports is true, whatever the peer does**.
-/
import DiceHost.Proofs.Link.Conversation
import Mathlib.Algebra.Order.Floor.Semifield
import Mathlib.Data.List.TakeWhile
import Mathlib.Data.Rat.Floor

namespace DiceHost.Link

open Transfer

/-! ### Percentages -/

/-- The part that is done in percent, rounded down; nothing to do is all done. -/
def share (done total : ℕ) : ℕ :=
  if total = 0 then 100 else ⌊(100 * min done total : ℚ) / total⌋₊

variable {done done' total n : ℕ}

lemma share_of_ne (h : total ≠ 0) : share done total = min done total * 100 / total := by
  rw [share, if_neg h, ← Nat.floor_div_eq_div (K := ℚ)]
  push_cast
  rw [mul_comm]

lemma share_le (done total : ℕ) : share done total ≤ 100 := by
  by_cases h : total = 0
  · rw [share, if_pos h]
  · rw [share_of_ne h]
    exact Nat.div_le_of_le_mul (by omega)

lemma share_mono (h : done ≤ done') : share done total ≤ share done' total := by
  by_cases htotal : total = 0
  · rw [share, share, if_pos htotal, if_pos htotal]
  · rw [share_of_ne htotal, share_of_ne htotal]
    exact Nat.div_le_div_right (by omega)

/-- The share is a hundred just when all is done. -/
lemma share_eq_hundred_iff : share done total = 100 ↔ total ≤ done := by
  by_cases h : total = 0
  · simp [share, h]
  · have hle := share_le done total
    have hall : 100 ≤ share done total ↔ total ≤ done := by
      rw [share_of_ne h, Nat.le_div_iff_mul_le (by omega)]
      omega
    rw [← hall, Nat.le_antisymm_iff, and_iff_right hle]

/-- The percentage is the share as far as the product has 64 bits. -/
lemma percent_of_lt (h : min done total * 100 < 2 ^ 64) :
    percent done total = .ok (share done total) := by
  by_cases htotal : total = 0
  · rw [percent, if_pos htotal, share, if_pos htotal]
  · rw [percent, if_neg htotal, share_of_ne htotal]
    exact if_pos h

/-- The program stops where the product leaves 64 bits. -/
lemma percent_of_ge (h : 2 ^ 64 ≤ min done total * 100) : percent done total = .error {} := by
  have htotal : total ≠ 0 := by
    rintro rfl
    simp at h
  rw [percent, if_neg htotal]
  exact if_neg (Nat.not_lt.mpr h)

variable {last : Option ℕ}

/-- The share is reported when it is above the last report. -/
lemma increase_of_lt (h : min done total * 100 < 2 ^ 64) : increase last done total
    = .ok (if ∀ l ∈ last, l < share done total then some (share done total) else none) := by
  rw [increase, percent_of_lt h]
  cases last <;> simp [bind, Except.bind, pure, Except.pure]

lemma increase_of_ge (h : 2 ^ 64 ≤ min done total * 100) :
    increase last done total = .error {} := by
  rw [increase, percent_of_ge h]
  rfl

/-- No percentage of a size of 32 bits overflows. -/
lemma increase_eq_ok (h : total < 2 ^ 32) :
    increase last done total = .ok (increase? last done total) := by
  have hlt : min done total * 100 < 2 ^ 64 := by omega
  rw [increase?, increase_of_lt hlt]
  rfl

/-- What is reported is the share, and is above the last report. -/
lemma increase?_eq_some_iff (h : total < 2 ^ 32) :
    increase? last done total = some n ↔ n = share done total ∧ ∀ l ∈ last, l < n := by
  have hlt : min done total * 100 < 2 ^ 64 := by omega
  rw [← Except.ok.injEq (ε := Overflow), ← increase_eq_ok h, increase_of_lt hlt]
  split_ifs with habove
  · simp only [Except.ok.injEq, Option.some.injEq]
    exact ⟨fun heq => heq ▸ ⟨rfl, habove⟩, fun heq => heq.1.symm⟩
  · simp only [Except.ok.injEq, reduceCtorEq, false_iff]
    rintro ⟨rfl, h⟩
    exact habove h

/-- Nothing is reported when the last report is not below the share. -/
lemma increase?_eq_none_iff (h : total < 2 ^ 32) :
    increase? last done total = none ↔ ∃ l ∈ last, share done total ≤ l := by
  have hlt : min done total * 100 < 2 ^ 64 := by omega
  rw [← Except.ok.injEq (ε := Overflow), ← increase_eq_ok h, increase_of_lt hlt]
  split_ifs with habove <;> simpa using habove

/-! ### Reports -/

/-- The values of a list that are above all values before them. -/
def newMaxima (vs : List ℕ) : List ℕ :=
  (vs.zipIdx.filter fun x => ∀ u ∈ vs.take x.2, u < x.1).map Prod.fst

lemma newMaxima_concat (vs : List ℕ) (v : ℕ) :
    newMaxima (vs ++ [v]) = newMaxima vs ++ if ∀ u ∈ vs, u < v then [v] else [] := by
  have hbefore : ∀ x ∈ vs.zipIdx, (vs ++ [v]).take x.2 = vs.take x.2 := by
    intro x hx
    have hlt := List.snd_lt_of_mem_zipIdx hx
    exact List.take_append_of_le_length (by omega)
  have hinit : (vs.zipIdx.filter fun x => ∀ u ∈ (vs ++ [v]).take x.2, u < x.1)
      = vs.zipIdx.filter fun x => ∀ u ∈ vs.take x.2, u < x.1 :=
    List.filter_congr fun x hx => by rw [hbefore x hx]
  rw [newMaxima, List.zipIdx_append, List.filter_append, List.map_append, hinit, ← newMaxima]
  congr 1
  rw [List.zipIdx_singleton, Nat.zero_add]
  by_cases h : ∀ u ∈ vs, u < v
  · rw [if_pos h, List.filter_cons_of_pos (by simpa using h)]
    rfl
  · rw [if_neg h, List.filter_cons_of_neg (by simpa using h)]
    rfl

namespace Progress

variable {r : Progress} {vs : List ℕ}

/-- A reporter has reported the new maxima of some values, and the last report is the greatest. -/
structure Reports (r : Progress) (vs : List ℕ) : Prop where
  seen : r.seen = newMaxima vs
  last : ∀ n, (∀ l ∈ r.last, l < n) ↔ ∀ v ∈ vs, v < n

lemma reports_nil : Reports {} [] := ⟨rfl, by simp⟩

/-- An update adds its share to the values. -/
lemma Reports.update (h : r.Reports vs) (hlt : min done total * 100 < 2 ^ 64) :
    ∃ r', r.update done total = .ok r' ∧ r'.Reports (vs ++ [share done total]) := by
  rw [Progress.update, increase_of_lt hlt]
  by_cases habove : ∀ l ∈ r.last, l < share done total
  · rw [if_pos habove]
    refine ⟨_, rfl, ?_, fun n => ?_⟩
    · rw [newMaxima_concat, if_pos ((h.last _).mp habove), ← h.seen]
    · simp only [Option.mem_some_iff, forall_eq', List.forall_mem_append,
        List.forall_mem_singleton]
      refine (and_iff_right_of_imp fun hn => (h.last n).mp fun l hl => ?_).symm
      exact (habove l hl).trans hn
  · rw [if_neg habove]
    refine ⟨r, rfl, ?_, fun n => ?_⟩
    · rw [newMaxima_concat, if_neg (mt (h.last _).mpr habove), List.append_nil, h.seen]
    · push Not at habove
      obtain ⟨l, hl, hle⟩ := habove
      rw [List.forall_mem_append, List.forall_mem_singleton, ← h.last n]
      exact (and_iff_left_of_imp fun hn => hle.trans_lt (hn l hl)).symm

/-- **The new maxima of the shares are reported, until an update overflows.** -/
lemma Reports.run (h : r.Reports vs) (us : List (ℕ × ℕ)) :
    (r.run us).1.Reports
        (vs ++ (us.takeWhile fun u => min u.1 u.2 * 100 < 2 ^ 64).map fun u => share u.1 u.2)
      ∧ ((r.run us).2 = none ↔ ∀ u ∈ us, min u.1 u.2 * 100 < 2 ^ 64) := by
  induction us generalizing r vs with
  | nil => simpa [Progress.run] using h
  | cons u us ih =>
      rw [Progress.run.eq_def]
      dsimp only
      by_cases hlt : min u.1 u.2 * 100 < 2 ^ 64
      · obtain ⟨r', hr', hreports⟩ := h.update hlt
        obtain ⟨hrun, hnone⟩ := ih hreports
        rw [List.takeWhile_cons_of_pos (by simpa using hlt), List.map_cons, List.append_cons, hr',
          List.forall_mem_cons, and_iff_right hlt]
        exact ⟨hrun, hnone⟩
      · have hstop : r.update u.1 u.2 = .error {} := by
          rw [Progress.update, increase_of_ge (Nat.not_lt.mp hlt)]
          rfl
        rw [List.takeWhile_cons_of_neg (by simpa using hlt), List.map_nil, List.append_nil, hstop,
          List.forall_mem_cons]
        exact ⟨h, iff_of_false nofun fun hall => hlt hall.1⟩

/-- All is done, but nothing is reported: the product does not fit 64 bits. -/
theorem run_stops :
    Progress.run {} [(2 ^ 60, 2 ^ 60)] = ({}, some {}) ∧ share (2 ^ 60) (2 ^ 60) = 100 :=
  ⟨by decide, share_eq_hundred_iff.mpr le_rfl⟩

end Progress

/-! ### Logs -/

/-- An exchange of a transfer, and the percentage that was reported on it. -/
structure Entry where
  exchange : Exchange
  report : Option ℕ

/-- The exchanges of a transfer, the first one first. -/
abbrev Log := List Entry

namespace Log

/-- What was said. -/
def talk (log : Log) : List Exchange := log.map Entry.exchange

/-- What was reported. -/
def reports (log : Log) : List ℕ := log.filterMap Entry.report

variable {log : Log} {x : Entry}

lemma talk_concat : (log ++ [x] : Log).talk = log.talk ++ [x.exchange] := by
  rw [talk, List.map_append, List.map_singleton, ← talk]

lemma reports_cons : Log.reports (x :: log) = x.report.toList ++ log.reports := by
  rw [reports, List.filterMap_cons, ← reports]
  cases x.report <;> rfl

lemma reports_concat : (log ++ [x] : Log).reports = log.reports ++ x.report.toList := by
  rw [reports, List.filterMap_append, ← reports]
  cases hx : x.report <;> simp [hx]

lemma getLast?_reports_concat :
    (log ++ [x] : Log).reports.getLast? = x.report.or log.reports.getLast? := by
  rw [reports_concat, List.getLast?_append]
  cases x.report <;> rfl

end Log

variable {p : Payload} {talk : List Exchange} {acked : List UInt8} {e : Exchange} {log : Log}
  {t : Transfer}

lemma Exchange.acked_append (talk talk' : List Exchange) :
    Exchange.acked (talk ++ talk') = Exchange.acked talk ++ Exchange.acked talk' := by
  rw [acked, List.filter_append, List.flatMap_append, ← acked, ← acked]

/-- The die has told that it has the payload. -/
def Exchange.TellsUpToDate (e : Exchange) : Prop :=
  e.message.Announces ∧ e.answer? = some (.transferAck .upToDate)

/-- The die has accepted the setup for a payload, and acknowledged some bytes since then. -/
def Accepts (p : Payload) (talk : List Exchange) (acked : List UInt8) : Prop :=
  ∃ before setup after, talk = before ++ setup :: after
    ∧ setup.message = .bulkSetup (UInt32.ofNat p.bytes.length) ∧ setup.isAcknowledged
    ∧ Exchange.acked after = acked

/-- A block more has been acknowledged. -/
lemma Accepts.concat (h : Accepts p talk acked) (he : e.isAcknowledged) :
    Accepts p (talk ++ [e]) (acked ++ e.message.data) := by
  obtain ⟨before, setup, after, rfl, hsetup, hack, rfl⟩ := h
  refine ⟨before, setup, after ++ [e], by simp, hsetup, hack, ?_⟩
  rw [Exchange.acked_append, Exchange.acked_cons_of_acknowledged he, Exchange.acked_nil,
    List.append_nil]

/-- What makes a percentage true that is reported after some talk. -/
inductive Justified (p : Payload) (talk : List Exchange) (n : ℕ) : Prop where
  | upToDate {e : Exchange} (htalk : talk = [e]) (he : e.TellsUpToDate) (hn : n = 100)
  | accepted {acked : List UInt8} (htalk : Accepts p talk acked) (hacked : acked <+: p.bytes)
      (hn : n = share acked.length p.bytes.length)

lemma Justified.le_hundred (h : Justified p talk n) : n ≤ 100 := by
  cases h with
  | upToDate _ _ hn => exact hn.le
  | accepted _ _ hn => exact hn ▸ share_le _ _

/-- When all is done, either nothing was to be done or all bytes have been acknowledged. -/
lemma Justified.hundred (h : Justified p talk 100) :
    (∃ e, talk = [e] ∧ e.TellsUpToDate) ∨ Accepts p talk p.bytes := by
  cases h with
  | upToDate htalk he => exact .inl ⟨_, htalk, he⟩
  | accepted htalk hacked hn =>
      have hall := share_eq_hundred_iff.mp hn.symm
      exact .inr (hacked.eq_of_length_le hall ▸ htalk)

/-- The reports of a log increase, and each of them is true when it is made. -/
structure Log.InOrder (p : Payload) (log : Log) : Prop where
  increasing : log.reports.Pairwise (· < ·)
  justified : ∀ pre x post, log = pre ++ x :: post → ∀ n ∈ x.report,
    Justified p (Log.talk pre ++ [x.exchange]) n

/-- A log goes on with a report that is true and above the last one, or with none. -/
lemma Log.InOrder.concat {x : Entry} (h : log.InOrder p)
    (habove : ∀ n ∈ x.report, ∀ l ∈ log.reports.getLast?, l < n)
    (hx : ∀ n ∈ x.report, Justified p (log.talk ++ [x.exchange]) n) :
    Log.InOrder p (log ++ [x]) where
  increasing := by
    rw [Log.reports_concat, ← List.isChain_iff_pairwise, List.isChain_append]
    refine ⟨List.isChain_iff_pairwise.mpr h.increasing, by cases x.report <;> simp, ?_⟩
    intro l hl n hn
    exact habove n (Option.mem_toList.mp (List.mem_of_mem_head? hn)) l hl
  justified := by
    intro pre y post heq n hn
    rcases List.eq_nil_or_concat post with rfl | ⟨post, z, rfl⟩
    · obtain ⟨rfl, hy⟩ := List.append_inj' heq rfl
      obtain rfl := List.singleton_inj.mp hy
      exact hx n hn
    · have heq : log ++ [x] = (pre ++ y :: post) ++ [z] := by simp [heq]
      exact h.justified pre y post (List.append_inj' heq rfl).1 n hn

/-! ### Transfers and their logs -/

/-- The setup has been accepted, and the last report is the share of what has been acknowledged
since then. -/
structure Carries (p : Payload) (t : Transfer) (log : Log) : Prop where
  accepts : ∃ acked, Accepts p log.talk acked ∧ acked ++ t.rest = p.bytes ∧ acked.length = t.sent
  last : log.reports.getLast? = some (share t.sent p.bytes.length)

/-- How far a transfer with a log has come. -/
def Standing (p : Payload) (t : Transfer) (log : Log) : Prop :=
  match t.phase with
  | .announcing => log = [] ∧ t.rest = p.bytes ∧ t.sent = 0
  | .settingUp => log.reports = [] ∧ t.rest = p.bytes ∧ t.sent = 0
  | .sending => Carries p t log
  | .committing => Carries p t log ∧ t.rest = []
  | .finished (.ok _) => log.reports.getLast? = some 100
  | .finished (.error _) => True

/-- A transfer and its log. -/
structure Accounts (p : Payload) (t : Transfer) (log : Log) : Prop where
  payload : t.payload = p
  reported : t.reported = log.reports.getLast?
  in_order : log.InOrder p
  standing : Standing p t log

namespace Accounts

lemma start (p : Payload) (asked maxMessage : ℕ) :
    Accounts p (Transfer.start p asked maxMessage) [] where
  payload := rfl
  reported := rfl
  in_order := ⟨.nil, fun pre x post h => by simp at h⟩
  standing := by
    rw [Standing, Transfer.start]
    split_ifs
    · exact ⟨rfl, rfl, rfl⟩
    · trivial

/-- The percentage reported last is the one that the transfer keeps. -/
lemma reported_answer (t : Transfer) (reply : Except LinkError (List UInt8)) :
    (t.answer reply).1.reported = (t.answer reply).2.or t.reported := by
  rw [Transfer.answer.eq_def]
  cases reply with
  | error reason => rfl
  | ok bytes =>
      dsimp only
      cases Message.decode bytes <;> rfl

/-- A transfer after an answer, and what it reports, when its standing is right. -/
lemma of_standing (h : Accounts p t log)
    (habove : ∀ n ∈ (t.answer e.reply).2, ∀ l ∈ t.reported, l < n)
    (hjustified : ∀ n ∈ (t.answer e.reply).2, Justified p (log.talk ++ [e]) n)
    (hstanding : Standing p (t.answer e.reply).1 (log ++ [⟨e, (t.answer e.reply).2⟩])) :
    Accounts p (t.answer e.reply).1 (log ++ [⟨e, (t.answer e.reply).2⟩]) where
  payload := (t.payload_answer e.reply).trans h.payload
  reported := by rw [Log.getLast?_reports_concat, reported_answer, h.reported]
  in_order := h.in_order.concat (h.reported ▸ habove) hjustified
  standing := hstanding

/-- A transfer goes on after the die has accepted the setup or acknowledged a block. -/
lemma of_progress (h : Accounts p t log) (t' : Transfer) (hlen : p.bytes.length < 2 ^ 32)
    (hanswer : t.answer e.reply = ({ t'.proceed with
      reported := (increase? t.reported t'.sent p.bytes.length).or t.reported },
      increase? t.reported t'.sent p.bytes.length))
    (haccepts : Accepts p (log.talk ++ [e]) acked) (hrest : acked ++ t'.rest = p.bytes)
    (hsent : acked.length = t'.sent) (hle : ∀ l ∈ t.reported, l ≤ share t'.sent p.bytes.length) :
    Accounts p (t.answer e.reply).1 (log ++ [⟨e, (t.answer e.reply).2⟩]) := by
  refine h.of_standing (fun n hn => ?_) (fun n hn => ?_) ?_
  · rw [hanswer] at hn
    exact ((increase?_eq_some_iff hlen).mp hn).2
  · rw [hanswer] at hn
    have hshare := ((increase?_eq_some_iff hlen).mp hn).1
    rw [← hsent] at hshare
    exact .accepted haccepts ⟨t'.rest, hrest⟩ hshare
  · -- the last report is the new share, whether it has been reported before or not
    have hlast : (increase? t.reported t'.sent p.bytes.length).or t.reported
        = some (share t'.sent p.bytes.length) := by
      cases hn : increase? t.reported t'.sent p.bytes.length with
      | none =>
          obtain ⟨l, hl, hge⟩ := (increase?_eq_none_iff hlen).mp hn
          have hupper := hle l hl
          have heq : l = share t'.sent p.bytes.length := by omega
          rw [Option.none_or, ← heq]
          exact hl
      | some n => rw [Option.some_or, ((increase?_eq_some_iff hlen).mp hn).1]
    have hcarries : Carries p t' (log ++ [⟨e, increase? t.reported t'.sent p.bytes.length⟩]) := by
      refine ⟨⟨acked, ?_, hrest, hsent⟩, ?_⟩
      · rw [Log.talk_concat]
        exact haccepts
      · rw [Log.getLast?_reports_concat, ← h.reported, hlast]
    rw [hanswer, Standing, proceed]
    by_cases hnil : t'.rest = []
    · simp only [hnil, List.isEmpty_nil, if_true]
      exact ⟨⟨hnil ▸ hcarries.accepts, hcarries.last⟩, trivial⟩
    · have hne : t'.rest.isEmpty = false := by simpa using hnil
      simp only [hne]
      exact ⟨hcarries.accepts, hcarries.last⟩

/-- The transfer and its report after an answer that is a message. -/
lemma answer_eq {a : Message} (h : e.answer? = some a) : t.answer e.reply
    = ({ t.receive a with reported := (t.progress? a).or t.reported }, t.progress? a) := by
  obtain ⟨bytes, hbytes, hdec⟩ := Exchange.answer?_eq_some_iff.mp h
  rw [hbytes, Transfer.answer, hdec]

/-- An acknowledgement keeps the log in order. -/
lemma acknowledged (h : Accounts p t log) (hlen : p.bytes.length < 2 ^ 32)
    (hreq : t.request? = some e.message) (hack : e.isAcknowledged) :
    Accounts p (t.answer e.reply).1 (log ++ [⟨e, (t.answer e.reply).2⟩]) := by
  obtain ⟨a, ha, hacked⟩ := Exchange.isAcknowledged_iff.mp hack
  have hanswer := answer_eq (t := t) ha
  have htotal : t.total = p.bytes.length := by rw [total, h.payload]
  have hstanding := h.standing
  rw [request?] at hreq
  rw [receive.eq_def, progress?.eq_def, htotal] at hanswer
  rw [Standing] at hstanding
  cases hp : t.phase with
  | announcing =>
      simp only [hp, Option.some.injEq] at hreq hanswer hstanding
      rw [← hreq, Message.isAcknowledgedBy_transferPayload] at hacked
      subst hacked
      refine h.of_standing (by simp [hanswer]) (by simp [hanswer]) ?_
      rw [hanswer, hstanding.1]
      exact ⟨rfl, hstanding.2⟩
  | settingUp =>
      simp only [hp, Option.some.injEq] at hreq hanswer hstanding
      obtain ⟨hreports, hrest, hsent⟩ := hstanding
      rw [← hreq, Message.isAcknowledgedBy_bulkSetup] at hacked
      subst hacked
      rw [← hsent] at hanswer
      have haccepts : Accepts p (log.talk ++ [e]) [] :=
        ⟨log.talk, e, [], rfl, by rw [← hreq, htotal], hack, rfl⟩
      refine h.of_progress t hlen hanswer haccepts hrest hsent.symm fun l hl => ?_
      rw [h.reported, hreports] at hl
      cases hl
  | sending =>
      simp only [hp, Option.some.injEq] at hreq hanswer hstanding
      obtain ⟨⟨acked, haccepts, hrest, hsent⟩, hlast⟩ := hstanding
      have hdata : e.message.data = t.rest.take t.chunk := by rw [← hreq, Message.data]
      rw [← hreq, Message.isAcknowledgedBy_bulkData] at hacked
      subst hacked
      simp only [if_true] at hanswer
      have hnext := haccepts.concat hack
      rw [hdata] at hnext
      refine h.of_progress { t with sent := t.sent + (t.rest.take t.chunk).length
                                    rest := t.rest.drop t.chunk }
        hlen hanswer hnext ?_ ?_ fun l hl => ?_
      · rw [List.append_assoc, List.take_append_drop, hrest]
      · rw [List.length_append, hsent]
      · rw [h.reported, hlast] at hl
        obtain rfl := Option.some.inj hl
        exact share_mono (Nat.le_add_right _ _)
  | committing =>
      simp only [hp, Option.some.injEq] at hreq hanswer hstanding
      obtain ⟨⟨⟨acked, -, hrest, hsent⟩, hlast⟩, hnil⟩ := hstanding
      rw [← hreq, Message.isAcknowledgedBy_commit] at hacked
      subst hacked
      refine h.of_standing (by simp [hanswer]) (by simp [hanswer]) ?_
      rw [hnil, List.append_nil] at hrest
      have hall : share t.sent p.bytes.length = 100 :=
        share_eq_hundred_iff.mpr (by rw [← hsent, hrest])
      rw [hanswer]
      change (Log.reports (log ++ [⟨e, none⟩])).getLast? = some 100
      rw [Log.getLast?_reports_concat, Option.none_or, hlast, hall]
  | finished x => simp [hp] at hreq

/-- Nothing is reported on any other answer, unless the die is up to date. -/
lemma report_eq_none (hreq : t.request? = some e.message) (hack : ¬ e.isAcknowledged)
    (hup : ¬ e.TellsUpToDate) : (t.answer e.reply).2 = none := by
  cases ha : e.answer? with
  | none =>
      rw [Exchange.answer?] at ha
      rw [Transfer.answer.eq_def]
      cases hreply : e.reply with
      | error reason => rfl
      | ok bytes =>
          cases hdec : Message.decode bytes with
          | error x => simp only [hdec]
          | ok a => simp [hreply, hdec, Except.toOption] at ha
  | some a =>
      have hother : ¬ e.message.isAcknowledgedBy a :=
        fun hacked => hack (Exchange.isAcknowledged_iff.mpr ⟨a, ha, hacked⟩)
      rw [answer_eq ha]
      dsimp only
      rw [request?] at hreq
      rw [progress?.eq_def]
      cases hp : t.phase with
      | announcing =>
          simp only [hp, Option.some.injEq] at hreq ⊢
          cases a with
          | transferAck verdict =>
              cases verdict with
              | upToDate => exact absurd ⟨by rw [← hreq]; trivial, ha⟩ hup
              | download | noMemory => rfl
          | _ => rfl
      | settingUp =>
          simp only [hp, Option.some.injEq] at hreq ⊢
          rw [← hreq, Message.isAcknowledgedBy_bulkSetup] at hother
          cases a with
          | bulkSetupAck => exact absurd rfl hother
          | _ => rfl
      | sending =>
          simp only [hp, Option.some.injEq] at hreq ⊢
          rw [← hreq, Message.isAcknowledgedBy_bulkData] at hother
          cases a with
          | bulkDataAck offset => exact if_neg fun heq => hother (by rw [heq])
          | _ => rfl
      | committing | finished x => cases a <;> rfl

/-- Any other answer ends the transfer, and the log is in order. -/
lemma refused (h : Accounts p t log) (hlen : p.bytes.length < 2 ^ 32)
    (hreq : t.request? = some e.message) (hack : ¬ e.isAcknowledged) :
    Accounts p (t.answer e.reply).1 (log ++ [⟨e, (t.answer e.reply).2⟩]) := by
  have hother (bytes : List UInt8) (a : Message) (hbytes : e.reply = .ok bytes)
      (hdec : Message.decode bytes = .ok a) : ¬ e.message.isAcknowledgedBy a :=
    fun hacked => hack (Exchange.isAcknowledged_iff.mpr
      ⟨a, Exchange.answer?_eq_some_iff.mpr ⟨bytes, hbytes, hdec⟩, hacked⟩)
  obtain ⟨x, hx, hhalts⟩ := halts_of_answer hreq hother
  by_cases hup : e.TellsUpToDate
  · have hok : x = .ok .alreadyUpToDate :=
      hhalts.upToDate_iff.mpr ⟨hup.1, Exchange.answer?_eq_some_iff.mp hup.2⟩
    -- the transfer has just been announced, and nothing reported
    have hstanding := h.standing
    have hannounces := hup.1
    rw [Standing] at hstanding
    rw [request?] at hreq
    cases hp : t.phase with
    | announcing =>
        simp only [hp] at hstanding
        obtain ⟨rfl, -, -⟩ := hstanding
        have hreported : t.reported = none := h.reported
        have htotal : t.total < 2 ^ 32 := by rwa [total, h.payload]
        have hshare : share t.total t.total = 100 := share_eq_hundred_iff.mpr le_rfl
        have hreport : (t.answer e.reply).2 = some 100 := by
          rw [answer_eq hup.2, progress?.eq_def]
          simp only [hp]
          exact (increase?_eq_some_iff htotal).mpr ⟨hshare.symm, by simp [hreported]⟩
        refine h.of_standing (by simp [hreported]) (fun n hn => ?_) ?_
        · rw [hreport] at hn
          exact .upToDate rfl hup (Option.some.inj hn).symm
        · rw [hreport, Standing, hx, hok]
          rfl
    | settingUp | sending | committing =>
        simp only [hp, Option.some.injEq] at hreq
        rw [← hreq] at hannounces
        exact absurd hannounces id
    | finished x => simp [hp] at hreq
  · have hnone := report_eq_none hreq hack hup
    refine h.of_standing (by simp [hnone]) (by simp [hnone]) ?_
    rw [Standing, hx]
    cases x with
    | error reason => trivial
    | ok outcome =>
        cases outcome with
        | transferred => exact absurd rfl hhalts.not_transferred
        | alreadyUpToDate =>
            obtain ⟨hannounces, hreply⟩ := hhalts.upToDate_iff.mp rfl
            exact absurd ⟨hannounces, Exchange.answer?_eq_some_iff.mpr hreply⟩ hup

/-- **One answer keeps the log in order**, whatever it is. -/
theorem answer (h : Accounts p t log) (hlen : p.bytes.length < 2 ^ 32)
    (hreq : t.request? = some e.message) :
    Accounts p (t.answer e.reply).1 (log ++ [⟨e, (t.answer e.reply).2⟩]) := by
  by_cases hack : e.isAcknowledged
  · exact h.acknowledged hlen hreq hack
  · exact h.refused hlen hreq hack

end Accounts

/-! ### Runs -/

namespace Transfer

variable {σ : Type} {m : Message}

lemma finished_of_request? (h : t.request? = none) : ∃ x, t.phase = .finished x := by
  rw [request?] at h
  cases hp : t.phase with
  | finished x => exact ⟨x, rfl⟩
  | announcing | settingUp | sending | committing => simp [hp] at h

/-- A transfer that may send nothing more is incomplete. -/
lemma follow_zero (peer : Peer σ) (h : t.request? = some m) (s : σ) : follow peer 0 t s
    = ⟨.error (.incomplete t.sent t.total .disconnected), s, [], []⟩ := by
  rw [follow.eq_def]
  simp only [result?_of_request? h, h]

/-- The reports of a transfer with a message to send. -/
lemma reports_follow (peer : Peer σ) (fuel : ℕ) (h : t.request? = some m) (s : σ) :
    (follow peer (fuel + 1) t s).reports = (t.answer (peer s m.encode).1).2.toList
      ++ (follow peer fuel (t.answer (peer s m.encode).1).1 (peer s m.encode).2).reports := by
  rw [follow.eq_def]
  simp only [result?_of_request? h, h]

end Transfer

section Runs

variable {σ : Type} {peer : Peer σ} {s : σ} {out : Run σ}

/-- A log is what was sent to a peer, what the peer answered, and what was reported. -/
structure Log.Records (peer : Peer σ) (s : σ) (out : Run σ) (log : Log) : Prop where
  requests : out.requests = log.talk.map fun e => e.message.encode
  replies : log.talk.map Exchange.reply = Exchange.replies peer s out.requests
  reports : out.reports = log.reports

/-- The rest of a transfer, after some entries of its log. -/
structure Log.Closes (p : Payload) (peer : Peer σ) (s : σ) (out : Run σ) (log new : Log) :
    Prop where
  records : new.Records peer s out
  in_order : Log.InOrder p (log ++ new)
  completed : ∀ outcome, out.result = .ok outcome →
    (log ++ new : Log).reports.getLast? = some 100

/-- A finished transfer has reported what it had to. -/
lemma Accounts.closes_of_finished {x : Except TransferError Outcome} (h : Accounts p t log)
    (hx : t.phase = .finished x) (peer : Peer σ) (fuel : ℕ) (s : σ) :
    Log.Closes p peer s (follow peer fuel t s) log [] := by
  rw [follow_finished peer fuel hx]
  refine ⟨⟨rfl, rfl, rfl⟩, by rw [List.append_nil]; exact h.in_order, fun outcome hok => ?_⟩
  obtain rfl : x = .ok outcome := hok
  have hstanding := h.standing
  rw [Standing, hx] at hstanding
  rw [List.append_nil]
  exact hstanding

/-- **The log of a transfer is in order to the end.** -/
theorem Accounts.closes (h : Accounts p t log) (hlen : p.bytes.length < 2 ^ 32) (peer : Peer σ)
    (fuel : ℕ) (s : σ) : ∃ new, Log.Closes p peer s (follow peer fuel t s) log new := by
  -- by induction on the fuel: every request makes one more entry of the log
  induction fuel generalizing t s log with
  | zero =>
      cases hreq : t.request? with
      | none =>
          obtain ⟨x, hx⟩ := finished_of_request? hreq
          exact ⟨[], h.closes_of_finished hx peer 0 s⟩
      | some m =>
          rw [follow_zero peer hreq]
          exact ⟨[], ⟨rfl, rfl, rfl⟩, by rw [List.append_nil]; exact h.in_order, nofun⟩
  | succ fuel ih =>
      cases hreq : t.request? with
      | none =>
          obtain ⟨x, hx⟩ := finished_of_request? hreq
          exact ⟨[], h.closes_of_finished hx peer _ s⟩
      | some m =>
          have hnext := h.answer (e := .of peer s m) hlen hreq
          obtain ⟨new, hrecords, horder, hcompleted⟩ := ih hnext (peer s m.encode).2
          refine ⟨⟨.of peer s m, (t.answer (peer s m.encode).1).2⟩ :: new, ⟨?_, ?_, ?_⟩, ?_, ?_⟩
          · rw [requests_follow peer fuel hreq]
            exact congrArg (m.encode :: ·) hrecords.requests
          · rw [requests_follow peer fuel hreq]
            exact congrArg ((peer s m.encode).1 :: ·) hrecords.replies
          · rw [reports_follow peer fuel hreq, Log.reports_cons]
            exact congrArg _ hrecords.reports
          · rw [List.append_cons]
            exact horder
          · rw [(follow_request peer fuel hreq s).1, List.append_cons]
            exact hcompleted

/-- What a transfer of a payload reports to its log. -/
structure Honest (peer : Peer σ) (s : σ) (p : Payload) (out : Run σ) (log : Log) : Prop where
  records : log.Records peer s out
  increasing : out.reports.Pairwise (· < ·)
  le_hundred : ∀ n ∈ out.reports, n ≤ 100
  /-- Every report is true when it is made. -/
  justified : ∀ pre x post, log = pre ++ x :: post → ∀ n ∈ x.report,
    Justified p (Log.talk pre ++ [x.exchange]) n
  /-- That all is done is reported when the die has told that it is up to date, or has accepted the
  setup and acknowledged all bytes since then. -/
  hundred : ∀ pre x post, log = pre ++ x :: post → x.report = some 100 →
    (pre = [] ∧ x.exchange.TellsUpToDate) ∨ Accepts p (Log.talk pre ++ [x.exchange]) p.bytes
  completed : ∀ outcome, out.result = .ok outcome → out.reports.getLast? = some 100

/-- A log that begins with the transfer. -/
lemma Log.Closes.honest (h : Log.Closes p peer s out [] log) : Honest peer s p out log := by
  have horder : log.InOrder p := h.in_order
  have hreports : out.reports = log.reports := h.records.reports
  refine ⟨h.records, hreports ▸ horder.increasing, fun n hn => ?_, horder.justified, ?_, ?_⟩
  · rw [hreports] at hn
    obtain ⟨x, hx, hreport⟩ := List.mem_filterMap.mp hn
    obtain ⟨pre, post, rfl⟩ := List.append_of_mem hx
    exact (horder.justified pre x post rfl n hreport).le_hundred
  · intro pre x post heq hx
    rcases (horder.justified pre x post heq 100 hx).hundred with ⟨e, htalk, he⟩ | haccepts
    · have htalk : Log.talk pre ++ [x.exchange] = [] ++ [e] := htalk
      obtain ⟨hpre, hx⟩ := List.append_inj' htalk rfl
      obtain rfl := List.singleton_inj.mp hx
      exact .inl ⟨List.map_eq_nil_iff.mp hpre, he⟩
    · exact .inr haccepts
  · intro outcome hok
    rw [hreports]
    exact h.completed outcome hok

end Runs

namespace Transfer

variable {σ : Type}

/-- **What a transfer reports is true.** Whatever the peer answers, the percentages increase, and
all is done when it is reported to be so; no percentage of a transfer overflows. A reporter of a
fixed total reports the new maxima of the shares when the total leaves room for the product, as
all sizes of 32 bits do; on any updates it reports them until one overflows. -/
theorem reports_honest (peer : Peer σ) (s : σ) (hlen : p.bytes.length < 2 ^ 32)
    (asked maxMessage : ℕ) :
    (∃ log, Honest peer s p (run peer s p asked maxMessage) log)
      ∧ (∀ last done, increase last done p.bytes.length
        = .ok (increase? last done p.bytes.length))
      ∧ (∀ total, total * 100 < 2 ^ 64 → ∀ dones : List ℕ,
        (Progress.run {} (dones.map (·, total))).1.seen = newMaxima (dones.map (share · total))
          ∧ (Progress.run {} (dones.map (·, total))).2 = none)
      ∧ ∀ us : List (ℕ × ℕ),
        (Progress.run {} us).1.seen = newMaxima
          ((us.takeWhile fun u => min u.1 u.2 * 100 < 2 ^ 64).map fun u => share u.1 u.2)
          ∧ ((Progress.run {} us).2 = none ↔ ∀ u ∈ us, min u.1 u.2 * 100 < 2 ^ 64) := by
  refine ⟨?_, fun _ _ => increase_eq_ok hlen, fun total htotal dones => ?_, fun us => ?_⟩
  · obtain ⟨log, hlog⟩ := (Accounts.start p asked maxMessage).closes hlen peer _ s
    exact ⟨log, hlog.honest⟩
  · have hfits : ∀ u ∈ dones.map (·, total), min u.1 u.2 * 100 < 2 ^ 64 := by
      simp only [List.forall_mem_map]
      intro done _
      omega
    obtain ⟨hreports, hnone⟩ := Progress.reports_nil.run (dones.map (·, total))
    have hall : ((dones.map (·, total)).takeWhile fun u => min u.1 u.2 * 100 < 2 ^ 64)
        = dones.map (·, total) :=
      List.takeWhile_eq_self_iff.mpr fun u hu => by simpa using hfits u hu
    refine ⟨?_, hnone.mpr hfits⟩
    rw [hreports.seen, hall, List.nil_append, List.map_map]
    rfl
  · obtain ⟨hreports, hnone⟩ := Progress.reports_nil.run us
    exact ⟨hreports.seen, hnone⟩

/-- Three bytes in two blocks, and updates of which one is below the last. -/
theorem reports_honest_recorded :
    let replies := [Message.transferAck .download, .bulkSetupAck, .bulkDataAck 0, .bulkDataAck 2,
      .commitAck true].map fun m => (.ok m.encode : Except LinkError (List UInt8))
    (run recorded replies ⟨.firmware, [1, 2, 3], 0⟩ 2 9).reports = [0, 66, 100]
      ∧ (∃ log, Honest recorded replies ⟨.firmware, [1, 2, 3], 0⟩
        (run recorded replies ⟨.firmware, [1, 2, 3], 0⟩ 2 9) log)
      ∧ (Progress.run {} ([50, 20, 60].map (·, 200))).1.seen
        = newMaxima ([50, 20, 60].map (share · 200)) := by
  intro replies
  obtain ⟨hlog, -, hfixed, -⟩ := reports_honest (p := ⟨.firmware, [1, 2, 3], 0⟩) recorded
    replies (by decide) 2 9
  exact ⟨rfl, hlog, (hfixed 200 (by decide) [50, 20, 60]).1⟩

end Transfer

end DiceHost.Link
