import Sampraan.Backend.IsoDate
import Sampraan.Library.ActThenMark
import Sampraan.Library.Lines
import Sampraan.SecurityIntelligence.Scan

/-! Overlapping scans: what they alert twice. -/

namespace Sampraan.SecurityIntelligence

open Backend Library
open Library.System (Admits AtMostOnce Reach)
open Blockchain.SubmitQueue (includes)

/-! ### The system -/

structure ScanCall where
  windowEvents : Option ℕ
  uuids : ℕ → String

/-- The rest of the application changes the status of alerts; it makes none, deletes none, and leaves
their texts alone. -/
def scanSystem (env : Environment) : System ScanCall World Error ScanResult where
  body call := scan env call.windowEvents call.uuids
  interfere s t := t.securityAlerts.map SecurityAlertRow.description =
    s.securityAlerts.map SecurityAlertRow.description

abbrev ScanConfig := Config ScanCall World Error ScanResult

/-! ### What a scan has read -/

def ScanCall.events (call : ScanCall) (w : World) : List AuditEventRow :=
  w.auditEvents.reverse.take (call.windowEvents.getD defaultWindow)

/-- From the first three statements of the scan, as far as it has come. -/
def ScanCall.view (call : ScanCall) (h : List (World × World)) : ScanView where
  events := (h[0]?.map fun e => call.events e.1).getD []
  identities := (h[1]?.map fun e => e.1.identities.reverse).getD []
  day := (h[2]?.map fun e => dayOf e.1.now).getD ""

def alerted (key : String) (w : World) : Bool := w.securityAlerts.any (marked key)

/-- The finding whose alert is to be inserted next, after a look that found none. -/
def nextInsert : List Finding → List (World × World) → Option Finding
  | found :: rest, e :: h =>
    if alerted found.alert.key e.1 then nextInsert rest h
    else if h.isEmpty then some found
    -- the insert, and the select of the new row
    else nextInsert rest (h.drop 2)
  | _, _ => none

def ScanCall.inserting (call : ScanCall) (h : List (World × World)) : Option Finding :=
  nextInsert (findings (call.view h)) (h.drop 3)

/-- The scan, when it comes to insert an alert, still finds none with its fingerprint. -/
def ScanCall.StillMissing (call : ScanCall) (h : List (World × World)) (s : World) : Prop :=
  ∀ found ∈ call.inserting h, alerted found.alert.key s = false

instance ScanCall.StillMissing.decidable (call : ScanCall) (h : List (World × World)) (s : World) :
    Decidable (call.StillMissing h s) :=
  inferInstanceAs (Decidable (∀ found ∈ call.inserting h, alerted found.alert.key s = false))

def ScanCall.Effect (call : ScanCall) (h : List (World × World)) (s t : World) : Prop :=
  t = s ∨ ∃ found uuid, call.inserting h = some found ∧
    t = insertAlert (alertRow uuid found.alert) s

/-- Every finding of the scan has its alert. -/
def ScanCall.Answer (call : ScanCall) (_ : ScanResult) (h : List (World × World)) : Prop :=
  ∀ found ∈ findings (call.view h), ∃ e ∈ h, alerted found.alert.key e.2 = true

/-! ### Fingerprints -/

section

variable {env : Environment} {call : ScanCall} {h : List (World × World)} {s t : World}
  {key : String}

theorem includes_iff {text pattern : String} :
    includes text pattern = true ↔ pattern.toList <:+: text.toList := by
  simp [includes]

theorem marked_alertRow (uuid : String) (input : AlertInput) :
    marked input.key (alertRow uuid input) = true := by
  rw [marked, includes_iff]
  refine ⟨(input.description ++ " [").toList, "]".toList, ?_⟩
  simp [alertRow, toString]

theorem alerted_insertAlert {uuid : String} {input : AlertInput} :
    alerted input.key (insertAlert (alertRow uuid input) s) = true := by
  simp [alerted, insertAlert, marked_alertRow]

theorem alerted_eq (key : String) (w : World) : alerted key w =
    (w.securityAlerts.map SecurityAlertRow.description).any (includes · (fingerprint key)) := by
  simp only [alerted, List.any_map]
  rfl

/-- The texts of the alerts are still there. -/
def AlertsStay (s t : World) : Prop :=
  s.securityAlerts.map SecurityAlertRow.description <+:
    t.securityAlerts.map SecurityAlertRow.description

theorem AlertsStay.alerted (hst : AlertsStay s t) (hs : alerted key s = true) :
    alerted key t = true := by
  rw [alerted_eq, List.any_eq_true] at hs ⊢
  obtain ⟨text, htext, hmarked⟩ := hs
  exact ⟨text, hst.subset htext, hmarked⟩

theorem alerted_of_steps (hst : Relation.ReflTransGen AlertsStay s t) (hs : alerted key s = true) :
    alerted key t = true := by
  induction hst with
  | refl => exact hs
  | tail _ hstep ih => exact hstep.alerted ih

theorem ScanCall.Effect.stay (he : call.Effect h s t) : AlertsStay s t := by
  rcases he with rfl | ⟨found, uuid, -, rfl⟩
  · exact List.prefix_refl _
  · simp [AlertsStay, insertAlert]

theorem nextInsert_eq_some {fs : List Finding} {found : Finding} (hnext : nextInsert fs h = some found) :
    found ∈ fs ∧ ∃ e ∈ h, alerted found.alert.key e.1 = false := by
  induction fs generalizing h with
  | nil => simp [nextInsert] at hnext
  | cons f rest ih =>
    have hlater {h' : List (World × World)} (hsub : h' ⊆ h) (hrest : nextInsert rest h' = some found) :
        found ∈ f :: rest ∧ ∃ e ∈ h, alerted found.alert.key e.1 = false := by
      obtain ⟨hmem, e, he, hnot⟩ := ih hrest
      exact ⟨List.mem_cons_of_mem _ hmem, e, hsub he, hnot⟩
    cases h with
    | nil => simp [nextInsert] at hnext
    | cons e h =>
      simp only [nextInsert] at hnext
      split at hnext
      · exact hlater (List.subset_cons_self e h) hnext
      rename_i hnot
      split at hnext
      · obtain rfl := Option.some.inj hnext
        exact ⟨List.mem_cons_self, e, List.mem_cons_self, Bool.eq_false_iff.mpr hnot⟩
      · exact hlater (fun x hx => List.mem_cons_of_mem _ (List.mem_of_mem_drop hx)) hnext

theorem findings_eq_nil {view : ScanView} (hnone : view.events = []) : findings view = [] := by
  simp [findings, repeatedDenials, revokedActivity, chainFailures, sensitiveAttempts, stepUpFailures,
    transferBurst, loginFailures, perIdentity, systemWide, actorsOf, tally, hnone]

/-! ### The statements of a scan -/

theorem createSecurityAlert_yields {α : Type} {h : List (World × World)} {row : SecurityAlertRow}
    {Q : List (World × World) → World → World → Prop} {R : α → List (World × World) → Prop}
    {k : Option SecurityAlertRow → Promise α} (hdb : env.databaseConfigured = true)
    (hinsert : ∀ s, Q h s (insertAlert row s)) (hselect : ∀ h s, Q h s s)
    (hk : ∀ s s' found, (k found).Yields Q R (h ++ [(s, insertAlert row s), (s', s')])) :
    (createSecurityAlert env row >>= k).Yields Q R h := by
  have hdb' : ¬ (!env.databaseConfigured) = true := by simp [hdb]
  rw [createSecurityAlert, if_neg hdb', Async.bind_assoc]
  apply Async.yields_statement_bind hinsert
  intro s
  apply Async.yields_query_bind fun _ => hselect _ _
  intro s'
  rw [List.append_assoc]
  exact hk s s' _

theorem upsertAlert_bind {α : Type} (hdb : env.databaseConfigured = true) (uuid : String)
    (input : AlertInput) (k : UpsertResult → Promise α) :
    upsertAlert env uuid input >>= k = Async.query (alerted input.key) >>= fun duplicate =>
      if duplicate then k .suppressed
      else createSecurityAlert env (alertRow uuid input) >>= fun _ => k .created := by
  have hdb' : ¬ (!env.databaseConfigured) = true := by simp [hdb]
  simp only [upsertAlert, listSecurityAlerts, createSecurityAlert, if_neg hdb']
  refine congrArg (Async.pending id) (funext fun s => ?_)
  have hlook : s.securityAlerts.reverse.any (marked input.key) = alerted input.key s :=
    List.any_reverse
  simp only [Async.bind, hlook]
  cases alerted input.key s <;> rfl

theorem raiseAlerts_yields (hdb : env.databaseConfigured = true) {fs : List Finding}
    (hins : ∀ g, call.inserting (h ++ g) = nextInsert fs g) (index : ℕ) (result : ScanResult) :
    (raiseAlerts env call.uuids index fs result).Yields call.Effect
      (fun _ h' => h <+: h' ∧ ∀ found ∈ fs, ∃ e ∈ h', alerted found.alert.key e.2 = true) h := by
  induction fs generalizing h index result with
  | nil => exact .fulfilled ⟨List.prefix_refl _, by simp⟩
  | cons found rest ih =>
    have hrest {e : World × World} {g : List (World × World)} {outcome : UpsertResult}
        (he : e ∈ h ++ g) (halerted : alerted found.alert.key e.2 = true)
        (hg : ∀ g', call.inserting (h ++ g ++ g') = nextInsert rest g') :
        (raiseAlerts env call.uuids (index + 1) rest (result.record found.fired outcome)).Yields
          call.Effect (fun _ h' => h <+: h' ∧
            ∀ f ∈ found :: rest, ∃ e ∈ h', alerted f.alert.key e.2 = true) (h ++ g) := by
      refine (ih hg _ _).weaken fun _ h' hh => ⟨(List.prefix_append _ _).trans hh.1, ?_⟩
      exact List.forall_mem_cons.mpr ⟨⟨e, hh.1.subset he, halerted⟩, hh.2⟩
    rw [raiseAlerts, upsertAlert_bind hdb]
    apply Async.yields_query_bind fun _ => .inl rfl
    intro s
    cases hlook : alerted found.alert.key s with
    | true =>
      apply hrest (e := (s, s)) (by simp) hlook
      intro g'
      rw [List.append_assoc, hins]
      simp [nextInsert, hlook]
    | false =>
      apply createSecurityAlert_yields hdb
      · intro s'
        refine .inr ⟨found, _, ?_, rfl⟩
        rw [hins]
        simp [nextInsert, hlook]
      · exact fun _ _ => .inl rfl
      · intro s' s'' _
        rw [List.append_assoc]
        apply hrest (e := (s', insertAlert (alertRow (call.uuids index) found.alert) s')) (by simp)
          alerted_insertAlert
        intro g'
        rw [List.append_assoc, hins]
        simp [nextInsert, hlook]

theorem scan_yields (env : Environment) (call : ScanCall) :
    ((scanSystem env).body call).Yields call.Effect call.Answer [] := by
  show (scan env call.windowEvents call.uuids).Yields call.Effect call.Answer []
  have hempty {h : List (World × World)} (hnone : (call.view h).events = []) (result : ScanResult) :
      (pure result : Promise ScanResult).Yields call.Effect call.Answer h :=
    .fulfilled (by simp [ScanCall.Answer, findings_eq_nil hnone])
  unfold scan
  by_cases hdb : env.databaseConfigured = true
  · have hdb' : ¬ (!env.databaseConfigured) = true := by simp [hdb]
    rw [listAuditEvents, listIdentities, if_neg hdb', if_neg hdb']
    apply Async.yields_query_bind fun _ => .inl rfl
    intro s₁
    apply Async.Yields.ite
    · intro hnone
      have hnil : (call.view [(s₁, s₁)]).events = [] := List.length_eq_zero_iff.mp hnone
      exact hempty hnil _
    intro _
    apply Async.yields_query_bind fun _ => .inl rfl
    intro s₂
    apply Async.yields_query_bind fun _ => .inl rfl
    intro s₃
    apply (raiseAlerts_yields hdb (fun g => rfl) _ _).weaken
    rintro _ h' ⟨⟨g, rfl⟩, hall⟩
    exact hall
  · have hdb' : (!env.databaseConfigured) = true := by simpa using hdb
    rw [listAuditEvents, if_pos hdb']
    exact hempty rfl _

theorem scan_recalls (env : Environment) (call : ScanCall) :
    ((scanSystem env).body call).Recalls call.Effect [] :=
  (scan_yields env call).weaken fun _ _ _ => trivial

theorem scan_discipline (env : Environment) :
    (scanSystem env).Discipline (fun _ => True) AlertsStay where
  body call := (scan_recalls env call).obeys fun _ _ _ _ he => he.stay
  interfere _ _ _ h := by
    rw [AlertsStay, h]
  keep _ _ _ _ := trivial

end

/-! ### What an alert is for -/

def ruleNames : List String :=
  ["R1-REPEATED-DENIALS", "R2-REVOKED-ACTIVITY", "R3-CHAIN-FAILURES", "R4-SENSITIVE-ATTEMPTS",
    "R5-STEP-UP-FAILURES", "R6-TRANSFER-BURST", "R7-LOGIN-FAILURES"]

/-- By the column of the identity and the fingerprint at the end of the text. -/
def AlertFor (rule : String) (identityId : Option String) (day : String) (alert : SecurityAlertRow) :
    Prop :=
  alert.identityId = identityId ∧
    ∃ text : String, alert.description = s!"{text} [{fingerprint (alertKey rule identityId day)}]"

/-- The statement creates an alert for the rule, the identity and the day. -/
def Raises (rule : String) (identityId : Option String) (day : String) (s t : World) : Prop :=
  ∃ alert, AlertFor rule identityId day alert ∧ t = insertAlert alert s

theorem colon_not_mem_rule {rule : String} (hrule : rule ∈ ruleNames) : ':' ∉ rule.toList := by
  revert rule
  decide

theorem le_length_padStart (width : ℕ) (n : ℤ) : width ≤ (padStart width n).toList.length := by
  simp only [padStart, String.toList_append, String.toList_ofList, List.length_append,
    List.length_replicate, String.length_toList]
  omega

theorem le_length_isoDate (year month day hour minute second ms : ℤ) :
    10 ≤ (isoYear year ++ "-" ++ padStart 2 month ++ "-" ++ padStart 2 day ++ "T" ++
      padStart 2 hour ++ ":" ++ padStart 2 minute ++ ":" ++ padStart 2 second ++ "." ++
      padStart 3 ms ++ "Z").toList.length := by
  have hmonth := le_length_padStart 2 month
  have hday := le_length_padStart 2 day
  have hhour := le_length_padStart 2 hour
  have hminute := le_length_padStart 2 minute
  have hsecond := le_length_padStart 2 second
  simp only [String.toList_append, List.length_append]
  omega

theorem length_dayOf (now : Time) : (dayOf now).toList.length = 10 := by
  have hlong : 10 ≤ (toISOString now).toList.length := le_length_isoDate _ _ _ _ _ _ _
  simp only [dayOf, sliceTo, String.toList_ofList, List.length_take]
  omega

theorem AlertFor.key_eq {rule rule' day day' : String} {identityId identityId' : Option String}
    {alert : SecurityAlertRow} (hrule : ':' ∉ rule.toList) (hrule' : ':' ∉ rule'.toList)
    (hday : day.toList.length = day'.toList.length) (h : AlertFor rule identityId day alert)
    (h' : AlertFor rule' identityId' day' alert) :
    alertKey rule identityId day = alertKey rule' identityId' day' := by
  obtain ⟨rfl, text, htext⟩ := h
  obtain ⟨rfl, text', htext'⟩ := h'
  have hsplit (t r d : String) : (s!"{t} [{fingerprint (alertKey r alert.identityId d)}]").toList =
      (t.toList ++ " [rule-fingerprint".toList ++ [':'] ++ r.toList) ++
        (':' :: (alert.identityId.getD "system").toList ++ [':']) ++ (d.toList ++ [']']) := by
    simp [fingerprint, alertKey, toString]
  have heq := (hsplit text rule day).symm.trans
    ((congrArg String.toList (htext.symm.trans htext')).trans (hsplit text' rule' day'))
  obtain ⟨hfront, hdays⟩ := List.append_inj' heq (by simp [hday])
  have hrules := List.append_cancel_right hfront
  have hday' := String.toList_inj.mp (List.append_cancel_right hdays)
  rcases Lines.cut_twice (List.not_mem_nil) hrules with ⟨-, hsame⟩ | ⟨m, ⟨-, hmore⟩ | ⟨hmore, -⟩⟩
  · rw [hday', String.toList_inj.mp hsame]
  · exact absurd (by simp [hmore]) hrule'
  · exact absurd (by simp [hmore]) hrule

/-! ### What the rules find -/

section

variable {rule : String} {threshold : ℕ} {p p' : AuditEventRow → Bool} {view view' : ScanView}
  {found : Finding}

theorem mem_tally {ids : List String} {id : String} {n : ℕ} :
    (id, n) ∈ tally ids ↔ id ∈ ids ∧ n = ids.count id := by
  simp only [tally, List.mem_map, List.mem_eraseDups, Prod.mk.injEq]
  constructor
  · rintro ⟨_, hid, rfl, rfl⟩
    exact ⟨hid, rfl⟩
  · rintro ⟨hid, rfl⟩
    exact ⟨id, hid, rfl, rfl⟩

theorem mem_perIdentity {text : String → ℕ → AlertText} :
    found ∈ perIdentity rule threshold p text view ↔ ∃ id ∈ actorsOf p view.events,
      threshold ≤ (actorsOf p view.events).count id ∧
        found = finding rule (some id) view.day ((actorsOf p view.events).count id)
          (text id ((actorsOf p view.events).count id)) := by
  simp only [perIdentity, List.mem_filterMap, Prod.exists, Option.ite_none_left_eq_some,
    Option.some.injEq, not_lt]
  constructor
  · rintro ⟨id, n, hmem, hle, rfl⟩
    obtain ⟨hid, rfl⟩ := mem_tally.mp hmem
    exact ⟨id, hid, hle, rfl⟩
  · rintro ⟨id, hid, hle, rfl⟩
    exact ⟨id, _, mem_tally.mpr ⟨hid, rfl⟩, hle, rfl⟩

theorem mem_systemWide {text : ℕ → AlertText} :
    found ∈ systemWide rule threshold p text view ↔ threshold ≤ view.events.countP p ∧
      found = finding rule none view.day (view.events.countP p) (text (view.events.countP p)) := by
  simp only [systemWide]
  split <;> rename_i h
  · simp [Nat.not_le.mpr h]
  · simp [Nat.not_lt.mp h]

theorem exists_rule_of_findings (h : found ∈ findings view) :
    ∃ rule ∈ ruleNames, ∃ identityId, ∀ uuid,
      found.alert.key = alertKey rule identityId view.day ∧
        AlertFor rule identityId view.day (alertRow uuid found.alert) := by
  have hper {rule : String} (hrule : rule ∈ ruleNames) {threshold : ℕ} {p : AuditEventRow → Bool}
      {text : String → ℕ → AlertText} (h : found ∈ perIdentity rule threshold p text view) :
      ∃ rule ∈ ruleNames, ∃ identityId, ∀ uuid,
        found.alert.key = alertKey rule identityId view.day ∧
          AlertFor rule identityId view.day (alertRow uuid found.alert) := by
    obtain ⟨id, -, -, rfl⟩ := mem_perIdentity.mp h
    exact ⟨rule, hrule, some id, fun uuid => ⟨rfl, rfl, _, rfl⟩⟩
  have hwide {rule : String} (hrule : rule ∈ ruleNames) {threshold : ℕ} {p : AuditEventRow → Bool}
      {text : ℕ → AlertText} (h : found ∈ systemWide rule threshold p text view) :
      ∃ rule ∈ ruleNames, ∃ identityId, ∀ uuid,
        found.alert.key = alertKey rule identityId view.day ∧
          AlertFor rule identityId view.day (alertRow uuid found.alert) := by
    obtain ⟨-, rfl⟩ := mem_systemWide.mp h
    exact ⟨rule, hrule, none, fun uuid => ⟨rfl, rfl, _, rfl⟩⟩
  simp only [findings, List.mem_append] at h
  rcases h with (((((h | h) | h) | h) | h) | h) | h
  · exact hper (by decide) h
  · exact hper (by decide) h
  · exact hwide (by decide) h
  · exact hper (by decide) h
  · exact hper (by decide) h
  · exact hper (by decide) h
  · exact hwide (by decide) h

/-- The same events on the same day, none of whose actors has been revoked or suspended since. -/
structure Repeats (view view' : ScanView) : Prop where
  events : view'.events.Perm view.events
  day : view'.day = view.day
  standing : ∀ event ∈ view.events, ∀ id ∈ event.actorIdentityId,
    id ∈ revokedIds view'.identities → id ∈ revokedIds view.identities

theorem actorsOf_sublist {events : List AuditEventRow}
    (hp : ∀ event ∈ events, p' event = true → p event = true) :
    (actorsOf p' events).Sublist (actorsOf p events) := by
  induction events with
  | nil => exact .slnil
  | cons event events ih =>
    have hrest := ih fun e he => hp e (List.mem_cons_of_mem _ he)
    simp only [actorsOf, List.filterMap_cons]
    by_cases hevent : p' event = true
    · rw [if_pos hevent, if_pos (hp event List.mem_cons_self hevent)]
      split
      · exact hrest
      · exact hrest.cons_cons _
    · rw [if_neg hevent]
      dsimp only
      split
      · exact hrest
      · exact hrest.cons _

theorem perIdentity_repeats {text text' : String → ℕ → AlertText} (h : Repeats view view')
    (hp : ∀ event ∈ view.events, p' event = true → p event = true)
    (hfound : found ∈ perIdentity rule threshold p' text' view') :
    ∃ found₀ ∈ perIdentity rule threshold p text view, found₀.alert.key = found.alert.key := by
  obtain ⟨id, hid, hle, rfl⟩ := mem_perIdentity.mp hfound
  have hperm : (actorsOf p' view'.events).Perm (actorsOf p' view.events) := h.events.filterMap _
  have hsub := actorsOf_sublist hp
  have hcount := (hperm.count_eq id).le.trans (hsub.count_le id)
  refine ⟨_, mem_perIdentity.mpr ⟨id, hsub.subset (hperm.subset hid), hle.trans hcount, rfl⟩, ?_⟩
  simp only [finding, h.day]

theorem systemWide_repeats {text text' : ℕ → AlertText} (h : Repeats view view')
    (hfound : found ∈ systemWide rule threshold p text' view') :
    ∃ found₀ ∈ systemWide rule threshold p text view, found₀.alert.key = found.alert.key := by
  obtain ⟨hle, rfl⟩ := mem_systemWide.mp hfound
  refine ⟨_, mem_systemWide.mpr ⟨(h.events.countP_eq p) ▸ hle, rfl⟩, ?_⟩
  simp only [finding, h.day]

theorem findings_repeats (h : Repeats view view') (hfound : found ∈ findings view') :
    ∃ found₀ ∈ findings view, found₀.alert.key = found.alert.key := by
  have hbarred : ∀ event ∈ view.events,
      event.actorIdentityId.any (revokedIds view'.identities).contains = true →
        event.actorIdentityId.any (revokedIds view.identities).contains = true := by
    intro event hevent hbarred
    rw [Option.any_eq_true] at hbarred ⊢
    obtain ⟨id, hid, hmem⟩ := hbarred
    rw [List.contains_iff_mem] at hmem
    exact ⟨id, hid, List.contains_iff_mem.mpr (h.standing event hevent id hid hmem)⟩
  simp only [findings, List.mem_append] at hfound ⊢
  rcases hfound with (((((h' | h') | h') | h') | h') | h') | h'
  · obtain ⟨found₀, hmem, hkey⟩ := perIdentity_repeats h (fun _ _ => id) h'
    exact ⟨found₀, .inl (.inl (.inl (.inl (.inl (.inl hmem))))), hkey⟩
  · obtain ⟨found₀, hmem, hkey⟩ := perIdentity_repeats h hbarred h'
    exact ⟨found₀, .inl (.inl (.inl (.inl (.inl (.inr hmem))))), hkey⟩
  · obtain ⟨found₀, hmem, hkey⟩ := systemWide_repeats h h'
    exact ⟨found₀, .inl (.inl (.inl (.inl (.inr hmem)))), hkey⟩
  · obtain ⟨found₀, hmem, hkey⟩ := perIdentity_repeats h (fun _ _ => id) h'
    exact ⟨found₀, .inl (.inl (.inl (.inr hmem))), hkey⟩
  · obtain ⟨found₀, hmem, hkey⟩ := perIdentity_repeats h (fun _ _ => id) h'
    exact ⟨found₀, .inl (.inl (.inr hmem)), hkey⟩
  · obtain ⟨found₀, hmem, hkey⟩ := perIdentity_repeats h (fun _ _ => id) h'
    exact ⟨found₀, .inl (.inr hmem), hkey⟩
  · obtain ⟨found₀, hmem, hkey⟩ := systemWide_repeats h h'
    exact ⟨found₀, .inr hmem, hkey⟩

end

/-! ### The law -/

structure ScansIdempotent (c : ScanConfig) : Prop where
  once : ∀ rule ∈ ruleNames, ∀ identityId now,
    AtMostOnce (c.Did fun _ => Raises rule identityId (dayOf now)) c.log
  again : ∀ i j call call' result p, c.Returned i call result → c.threads j = some ⟨call', p⟩ →
    c.Before i j → Repeats (call.view (c.history i)) (call'.view (c.history j)) →
      ∀ e ∈ c.history j, e.2.securityAlerts = e.1.securityAlerts

section

variable {env : Environment} {call : ScanCall} {w₀ : World} {c : ScanConfig}
  {C : ScanConfig → Move ScanCall World → Prop} {s t : World} {h h' : List (World × World)}

theorem AlertFor.marked {rule day : String} {identityId : Option String} {alert : SecurityAlertRow}
    (h : AlertFor rule identityId day alert) : marked (alertKey rule identityId day) alert = true := by
  obtain ⟨-, text, htext⟩ := h
  rw [SecurityIntelligence.marked, includes_iff, htext]
  refine ⟨(text ++ " [").toList, "]".toList, ?_⟩
  simp [toString]

theorem Raises.alerted {rule day : String} {identityId : Option String}
    (hst : Raises rule identityId day s t) : alerted (alertKey rule identityId day) t = true := by
  obtain ⟨alert, hfor, rfl⟩ := hst
  simp [SecurityIntelligence.alerted, insertAlert, hfor.marked]

theorem insertAlert_inj {alert alert' : SecurityAlertRow}
    (h : insertAlert alert s = insertAlert alert' s) : alert = alert' :=
  List.singleton_injective (List.append_cancel_left (congrArg World.securityAlerts h))

/-- An alert for the rule, the identity and the day comes from a finding with their key. -/
theorem ScanCall.Effect.key {rule : String} (hrule : rule ∈ ruleNames) {identityId : Option String}
    {now : Time} (he : call.Effect h s t) (hst : Raises rule identityId (dayOf now) s t)
    (hday : ∀ found ∈ call.inserting h, ∃ now', (call.view h).day = dayOf now') :
    ∃ found ∈ call.inserting h, found.alert.key = alertKey rule identityId (dayOf now) := by
  obtain ⟨alert, hfor, rfl⟩ := hst
  rcases he with hsame | ⟨found, uuid, hins, heq⟩
  · have hlength := congrArg (fun w => w.securityAlerts.length) hsame
    simp [insertAlert] at hlength
  obtain rfl := insertAlert_inj heq
  obtain ⟨rule', hrule', identityId', hfound⟩ := exists_rule_of_findings (nextInsert_eq_some hins).1
  obtain ⟨hkey, hfor'⟩ := hfound uuid
  obtain ⟨now', hnow'⟩ := hday found hins
  rw [hnow'] at hkey hfor'
  have hlength : (dayOf now).toList.length = (dayOf now').toList.length :=
    (length_dayOf now).trans (length_dayOf now').symm
  refine ⟨found, hins, hkey.trans ?_⟩
  exact (hfor.key_eq (colon_not_mem_rule hrule) (colon_not_mem_rule hrule') hlength hfor').symm

/-- A scan that has come to insert an alert has read the day. -/
theorem exists_day_of_inserting {found : Finding} (hins : found ∈ call.inserting h) :
    ∃ e₁ e₂ e₃ rest, h = e₁ :: e₂ :: e₃ :: rest := by
  obtain ⟨-, e, he, -⟩ := nextInsert_eq_some hins
  clear hins
  rcases h with _ | ⟨e₁, _ | ⟨e₂, _ | ⟨e₃, rest⟩⟩⟩
  · cases he
  · cases he
  · cases he
  · exact ⟨e₁, e₂, e₃, rest, rfl⟩

theorem once_of_reach (hc : (scanSystem env).Reach (Admits ScanCall.StillMissing) w₀ c)
    {rule : String} (hrule : rule ∈ ruleNames) (identityId : Option String) (now : Time) :
    AtMostOnce (c.Did fun _ => Raises rule identityId (dayOf now)) c.log := by
  have hmarking : (scanSystem env).Marking (Admits ScanCall.StillMissing) w₀
      (fun _ => Raises rule identityId (dayOf now))
      fun w => alerted (alertKey rule identityId (dayOf now)) w = true := by
    refine ⟨fun c i call effect next hc _ hi hold => ?_, fun s t hst hold => ?_,
      fun _ _ _ _ _ _ _ _ hst => hst.alerted⟩
    · exact ((hc.recalls (scan_recalls env) hi).step c.shared).1.stay.alerted hold
    · exact ((scan_discipline env).interfere s t trivial hst).alerted hold
  apply hmarking.once_of_unmarked hc
  intro c i call effect next hc hm hi hst hold
  have heffect := ((hc.recalls (scan_recalls env) hi).step c.shared).1
  have hday : ∀ found ∈ call.inserting (c.history i), ∃ now', (call.view (c.history i)).day = dayOf now' := by
    intro found hfound
    obtain ⟨e₁, e₂, e₃, rest, hh⟩ := exists_day_of_inserting hfound
    exact ⟨e₃.1.now, by rw [hh]; rfl⟩
  obtain ⟨found, hins, hkey⟩ := heffect.key hrule hst hday
  have hmissing := hm _ (Option.mem_toList.mpr hi) found hins
  rw [hkey, hold] at hmissing
  cases hmissing

theorem again_of_reach (hc : (scanSystem env).Reach C w₀ c) {i j : ℕ} {call call' : ScanCall}
    {result : ScanResult} {p : Promise ScanResult} (hi : c.Returned i call result)
    (hj : c.threads j = some ⟨call', p⟩) (hij : c.Before i j)
    (hrepeats : Repeats (call.view (c.history i)) (call'.view (c.history j))) {e : World × World}
    (he : e ∈ c.history j) : e.2.securityAlerts = e.1.securityAlerts := by
  obtain ⟨c₀, call₀, hran⟩ := hc.ran (Config.mem_history.mp he)
  obtain rfl := hran.call_eq hj
  rcases hran.recalls (scan_recalls env) with hsame | ⟨found, uuid, hins, -⟩
  · exact congrArg World.securityAlerts hsame
  -- the scan has looked for an alert that the first one has left
  obtain ⟨hfound, e', he', hnot⟩ := nextInsert_eq_some hins
  obtain ⟨e₁, e₂, e₃, rest, hh⟩ := exists_day_of_inserting hins
  obtain ⟨later, hlater⟩ := hran.continues.history j
  have hview : call₀.view (c.history j) = call₀.view (c₀.history j) := by
    rw [← hlater, hh]
    rfl
  obtain ⟨found₀, hmem, hkey⟩ := findings_repeats hrepeats (hview ▸ hfound)
  obtain ⟨e₀, he₀, halerted⟩ := hc.returned (scan_yields env) hi found₀ hmem
  have hthere : e' ∈ c.history j := hlater ▸ List.mem_append_left _ (List.mem_of_mem_drop he')
  have hsteps := (scan_discipline env).before trivial hc hij he₀ hthere
  have hstill := alerted_of_steps hsteps halerted
  rw [hkey, hnot] at hstill
  cases hstill

end

/-- In a run in which no alert is inserted that has come since it was looked for. -/
theorem scansIdempotent (env : Environment) {w₀ : World} {c : ScanConfig}
    (hc : (scanSystem env).Reach (Admits ScanCall.StillMissing) w₀ c) : ScansIdempotent c where
  once _ hrule identityId now := once_of_reach hc hrule identityId now
  again _ _ _ _ _ _ hi hj hij hrepeats _ he := again_of_reach hc hi hj hij hrepeats he

/-! ### Sample runs -/

def failedSubmission : AuditEventRow where
  actorIdentityId := none
  action := "BLOCKCHAIN_TRANSACTION_FAILED"
  resourceType := "ASSET"
  resourceId := "ASSET-1"
  decision := .deny
  reason := "nonce too low"

def failedWorld : World := { sampleWorld with auditEvents := [failedSubmission] }

def sampleScan (uuid : String) : ScanCall where
  windowEvents := none
  uuids := fun _ => uuid

def firstResult : ScanResult where
  scanned := 1
  created := 1
  suppressed := 0
  rules := [{ rule := "R3-CHAIN-FAILURES", identityId := none, count := 1 }]

def singleRun : Option ScanConfig :=
  (scanSystem sampleEnvironment).exec (Admits ScanCall.StillMissing) (Config.initial failedWorld)
    (System.sequence 0 [(sampleScan "first", 6)])

theorem scansIdempotent_sample : ∃ c : ScanConfig,
    c.Returned 0 (sampleScan "first") firstResult ∧ ScansIdempotent c := by
  have hrun : singleRun.isSome := by rfl
  have hc := System.exec_reach (fun m hm => System.harmless_of_mem_sequence hm)
    (Option.some_get hrun).symm
  exact ⟨singleRun.get hrun, rfl, scansIdempotent sampleEnvironment hc⟩

/-- Both scans look for the alert before either inserts it. -/
def overlappingMoves : List (Move ScanCall World) :=
  .start 0 (sampleScan "first") :: List.replicate 4 (.run 0) ++
    .start 1 (sampleScan "second") :: List.replicate 6 (.run 1) ++ [.run 0, .run 0]

def overlappingRun : Option ScanConfig :=
  (scanSystem sampleEnvironment).exec (fun _ _ => True) (Config.initial failedWorld) overlappingMoves

def failureAlert (uuid : String) : SecurityAlertRow :=
  alertRow uuid
    (finding "R3-CHAIN-FAILURES" none (dayOf 1700000000000) 1
      { title := "Blockchain submission failures (1)"
        severity := .medium
        description := "Advisory rule R3: 1 blockchain transaction/anchor failure(s) in " ++
          "the recent audit window. Anchoring is best-effort by design, but clusters of failures " ++
          "may indicate chain or operator-key issues."
        riskScore := 55 }).alert

/-- Two overlapping scans make the same alert twice. -/
theorem not_scansIdempotent :
    ∃ c, (scanSystem sampleEnvironment).Reachable failedWorld c ∧
      c.Returned 0 (sampleScan "first") firstResult ∧
      c.Returned 1 (sampleScan "second") firstResult ∧
      c.shared.securityAlerts = [failureAlert "second", failureAlert "first"] ∧
      ¬ ScansIdempotent c := by
  have hrun : overlappingRun.isSome := by rfl
  have hraises (uuid : String) (s : World) : Raises "R3-CHAIN-FAILURES" none (dayOf 1700000000000) s
      (insertAlert (failureAlert uuid) s) := ⟨_, ⟨rfl, _, rfl⟩, rfl⟩
  have hfirst : (overlappingRun.get hrun).Returned 0 (sampleScan "first") firstResult := rfl
  have hsecond : (overlappingRun.get hrun).Returned 1 (sampleScan "second") firstResult := rfl
  refine ⟨overlappingRun.get hrun, ?_, hfirst, hsecond, rfl, fun hsound => ?_⟩
  · exact System.exec_reach (System.harmless_of_all_ofCall (by rfl)) (Option.some_get hrun).symm
  · let between := insertAlert (failureAlert "second") failedWorld
    have hlog : (overlappingRun.get hrun).log[8]? = some (1, failedWorld, between) := rfl
    have hlog' : (overlappingRun.get hrun).log[10]? =
        some (0, between, insertAlert (failureAlert "first") between) := rfl
    have hsame := (hsound.once "R3-CHAIN-FAILURES" (by decide) none 1700000000000).eq_of_mem
      (List.mem_of_getElem? hlog) (List.mem_of_getElem? hlog')
      ⟨_, Option.mem_toList.mpr hsecond, hraises "second" failedWorld⟩
      ⟨_, Option.mem_toList.mpr hfirst, hraises "first" between⟩
    exact absurd (congrArg Prod.fst hsame) (by decide)

end Sampraan.SecurityIntelligence
