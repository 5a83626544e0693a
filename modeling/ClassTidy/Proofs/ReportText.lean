import ClassTidy.Proofs.FixedResults
import ClassTidy.Proofs.JsonText

/-! Reports lose nothing. -/

namespace ClassTidy

open Fallible

namespace Json

lemma lookup_eq_some_iff_mem {fields : List (String × Json)} (hkeys : (fields.map Prod.fst).Nodup)
    (k : String) (v : Json) : fields.lookup k = some v ↔ (k, v) ∈ fields := by
  induction fields with
  | nil => simp
  | cons f fields ih =>
    obtain ⟨k', v'⟩ := f
    rw [List.map_cons, List.nodup_cons] at hkeys
    by_cases h : k = k'
    · subst h
      have hnot : (k, v) ∉ fields := fun hmem => hkeys.1 (List.mem_map.mpr ⟨(k, v), hmem, rfl⟩)
      simp [hnot, eq_comm]
    · have hne : (k == k') = false := beq_eq_false_iff_ne.mpr h
      simp only [List.lookup_cons, hne, ih hkeys.2, List.mem_cons, Prod.mk.injEq, h, false_and, false_or]

lemma lookup_sortBy_keyLe {fields : List (String × Json)} (hkeys : (fields.map Prod.fst).Nodup)
    (k : String) : (sortBy keyLe fields).lookup k = fields.lookup k := by
  have hperm := perm_sortBy_keyLe fields
  ext v
  rw [lookup_eq_some_iff_mem hkeys, lookup_eq_some_iff_mem ((hperm.map Prod.fst).nodup_iff.mpr hkeys),
    hperm.mem_iff]

lemma sorted_object_eq (fields : List (String × Json)) :
    sorted (.object fields) = .object (sortBy keyLe (fields.map fun f => (f.1, f.2.sorted))) := by
  rw [sorted, sortedFields_eq_map]

lemma field_congr {fields fields' : List (String × Json)} (h : ∀ k, fields.lookup k = fields'.lookup k)
    (k : String) : (object fields).field k = (object fields').field k := by
  simp only [field, h]

lemma field?_congr {fields fields' : List (String × Json)} (h : ∀ k, fields.lookup k = fields'.lookup k)
    (k : String) : (object fields).field? k = (object fields').field? k := by
  simp only [field?, Json.fields, Except.map, h]

lemma isTruthy_orElse {other : Json} (h : other.isTruthy = true) (v : Option Json) :
    (orElse v other).isTruthy = true := by
  unfold orElse
  split
  · split
    · assumption
    · exact h
  · exact h

@[simp]
lemma orElse_list (items : List Json) : orElse (some (.list items)) (.list []) = .list items := by
  cases items <;> rfl

@[simp]
lemma orElse_object (fields : List (String × Json)) :
    orElse (some (.object fields)) (.object []) = .object fields := by
  cases fields <;> rfl

lemma digits_write_ne_nil (x : Decimal.Digits) : x.write ≠ [] := by
  unfold Decimal.Digits.write
  split
  · split
    · simp
    · simp only
      split <;> simp
  · simp

lemma writeFinite_ne_nil (negative : Bool) (m : Nat) (e : Int) (narrowBelow : Bool) :
    Decimal.writeFinite negative m e narrowBelow ≠ [] := by
  have hbody : (if m = 0 then ['0', '.', '0'] else (Decimal.shortest m e narrowBelow).write) ≠ [] := by
    split
    · simp
    · exact digits_write_ne_nil _
  cases negative with
  | true => exact List.cons_ne_nil '-' _
  | false => exact hbody

lemma displayFloat_ne_empty (x : Float) : displayFloat x ≠ "" := by
  unfold displayFloat
  split
  · decide
  · split <;> decide
  · simpa using writeFinite_ne_nil _ _ _ _

lemma toString_int_ne_empty (n : Int) : toString n ≠ "" := by
  cases n with
  | ofNat n =>
    change Nat.repr n ≠ ""
    intro hempty
    have hdigits : Nat.toDigits 10 n = [] := by rw [← Nat.toList_repr, hempty]; rfl
    exact Nat.toDigits_ne_nil hdigits
  | negSucc n =>
    change "-" ++ Nat.repr (n + 1) ≠ ""
    simp

lemma asText_ne_empty {v : Json} (h : v.isTruthy = true) : v.asText ≠ "" := by
  cases v with
  | null => cases h
  | bool b =>
    subst h
    decide
  | int n => simpa [asText, display] using toString_int_ne_empty n
  | float x => simpa [asText, display] using displayFloat_ne_empty x
  | str s => simpa [asText, isTruthy] using h
  | list items => simp [asText, display]
  | object fields => simp [asText, display]

end Json

lemma mapM_map_eq_ok {α β ε : Type} {f : β → Except ε α} {g : α → β} {as : List α}
    (h : ∀ a ∈ as, f (g a) = .ok a) : (as.map g).mapM f = .ok as := by
  rw [mapM_eq_ok_iff, List.forall₂_map_left_iff, List.forall₂_same]
  exact h

namespace Finding

variable {f : Finding}

lemma ofJson_congr {fields fields' : List (String × Json)} (h : ∀ k, fields.lookup k = fields'.lookup k) :
    ofJson (.object fields) = ofJson (.object fields') := by
  simp only [ofJson, Json.field_congr h, Json.field?_congr h]

lemma ofJson_toJson (h : f.message ≠ "") : ofJson f.toJson = .ok f := by
  have hmessage : Json.orElse (some (.str f.message)) (.str unsortedMessage) = .str f.message := by
    simp [Json.orElse, Json.isTruthy, h]
  simp [ofJson, toJson, Json.field, Json.field?, Json.fields, List.lookup, Json.toInt, hmessage, Json.asText,
    Except.map, bind, Except.bind, pure, Except.pure]

lemma plain_toJson (f : Finding) : f.toJson.Plain := by
  refine .object (by simp) ?_
  simp [Json.Plain.int, Json.Plain.str]

lemma ofJson_sorted (h : f.message ≠ "") : ofJson f.toJson.sorted = .ok f := by
  rw [← ofJson_toJson h, toJson, Json.sorted_object_eq]
  refine ofJson_congr fun k => ?_
  rw [Json.lookup_sortBy_keyLe (by simp)]
  simp [Json.sorted]

lemma message_ne_empty {v : Json} (h : ofJson v = .ok f) : f.message ≠ "" := by
  simp only [ofJson, bind_eq_ok_iff] at h
  -- All fields but the message are of no account here.
  repeat obtain ⟨_, -, h⟩ := h
  exact Json.asText_ne_empty (Json.isTruthy_orElse rfl _)

end Finding

namespace LintError

variable {e : LintError}

lemma ofJson_congr {fields fields' : List (String × Json)} (h : ∀ k, fields.lookup k = fields'.lookup k) :
    ofJson (.object fields) = ofJson (.object fields') := by
  simp only [ofJson, Json.field_congr h, Json.field?_congr h]

lemma ofJson_toJson (e : LintError) : ofJson e.toJson = .ok e := by
  simp [ofJson, toJson, Json.field, Json.field?, Json.fields, List.lookup, Json.asText, Except.map, bind,
    Except.bind, pure, Except.pure]

lemma plain_toJson (h : e.detail.Plain) : e.toJson.Plain := by
  refine .object (by simp) ?_
  simp [Json.Plain.str, h]

lemma ofJson_sorted (h : e.detail.sorted = e.detail) : ofJson e.toJson.sorted = .ok e := by
  rw [← ofJson_toJson e, toJson, Json.sorted_object_eq]
  refine ofJson_congr fun k => ?_
  rw [Json.lookup_sortBy_keyLe (by simp)]
  simp [Json.sorted, h]

end LintError

namespace LintResult

variable {r : LintResult}

lemma ofJson_congr {fields fields' : List (String × Json)} (h : ∀ k, fields.lookup k = fields'.lookup k) :
    ofJson (.object fields) = ofJson (.object fields') := by
  simp only [ofJson, Json.field?_congr h]

lemma ofJson_fields {findings errors : List Json} (hfindings : findings.mapM Finding.ofJson = .ok r.findings)
    (herrors : errors.mapM LintError.ofJson = .ok r.errors) :
    ofJson (.object [("ok", .bool r.ok), ("path", (r.path.map Json.str).getD .null),
      ("findings", .list findings), ("errors", .list errors), ("meta", .object r.counts),
      ("fixed", .bool r.fixed)]) = .ok r := by
  have hpath : pathOf (some ((r.path.map Json.str).getD .null)) = r.path := by
    cases r.path <;> rfl
  simp [ofJson, Json.field?, Json.fields, List.lookup, Json.items, Json.tableFields, LintOptions.truth,
    Json.isTruthy, hpath, hfindings, herrors, Except.map, bind, Except.bind, pure, Except.pure]

lemma ofJson_toJson (h : ∀ f ∈ r.findings, f.message ≠ "") : ofJson r.toJson = .ok r :=
  ofJson_fields (mapM_map_eq_ok fun f hf => Finding.ofJson_toJson (h f hf))
    (mapM_map_eq_ok fun e _ => LintError.ofJson_toJson e)

lemma messages_of_ofJson {v : Json} (h : ofJson v = .ok r) : ∀ f ∈ r.findings, f.message ≠ "" := by
  simp only [ofJson, bind_eq_ok_iff] at h
  obtain ⟨_, -, _, -, _, -, _, -, findings, hfindings, _, -, _, -, errors, -, _, -, counts, -, _, -, h⟩ := h
  cases h
  intro f hf
  obtain ⟨w, -, hw⟩ := exists_of_mem_mapM hfindings hf
  exact Finding.message_ne_empty hw

/-- The result holds nothing that reports write in another way: no message is empty, and counts and
details are plain values with their fields in order. -/
structure Reportable (r : LintResult) : Prop where
  messages : ∀ f ∈ r.findings, f.message ≠ ""
  details : ∀ e ∈ r.errors, e.detail.Plain ∧ e.detail.sorted = e.detail
  counts : (Json.object r.counts).Plain ∧ (Json.object r.counts).sorted = .object r.counts

lemma Reportable.plain_toJson (h : r.Reportable) : r.toJson.Plain := by
  have hpath : ((r.path.map Json.str).getD .null).Plain := by
    cases r.path with
    | none => exact .null
    | some p => exact .str p
  have hfindings : (Json.list (r.findings.map Finding.toJson)).Plain :=
    .list (List.forall_mem_map.mpr fun f _ => f.plain_toJson)
  have herrors : (Json.list (r.errors.map LintError.toJson)).Plain :=
    .list (List.forall_mem_map.mpr fun e he => LintError.plain_toJson (h.details e he).1)
  refine .object (by simp) ?_
  simp [Json.Plain.bool, hpath, hfindings, herrors, h.counts.1]

lemma Reportable.ofJson_sorted (h : r.Reportable) : ofJson r.toJson.sorted = .ok r := by
  have hpath : ((r.path.map Json.str).getD .null).sorted = (r.path.map Json.str).getD .null := by
    cases r.path <;> simp [Json.sorted]
  have hfindings : ((r.findings.map Finding.toJson).map Json.sorted).mapM Finding.ofJson = .ok r.findings := by
    rw [List.map_map]
    exact mapM_map_eq_ok fun f hf => Finding.ofJson_sorted (h.messages f hf)
  have herrors : ((r.errors.map LintError.toJson).map Json.sorted).mapM LintError.ofJson = .ok r.errors := by
    rw [List.map_map]
    exact mapM_map_eq_ok fun e he => LintError.ofJson_sorted (h.details e he).2
  -- Sorting the fields changes no look-up, and sorting what they hold has been dealt with above.
  rw [← ofJson_fields hfindings herrors, toJson, Json.sorted_object_eq]
  refine ofJson_congr fun k => ?_
  rw [Json.lookup_sortBy_keyLe (by simp)]
  simp only [List.map_cons, List.map_nil, hpath, h.counts.2]
  simp only [Json.sorted, Json.sortedItems_eq_map]

lemma plain_reportJson {rs : List LintResult} (h : ∀ r ∈ rs, r.Reportable) : (reportJson rs).Plain := by
  have hfiles : (Json.list (rs.map toJson)).Plain :=
    .list (List.forall_mem_map.mpr fun r hr => (h r hr).plain_toJson)
  refine .object (by simp) ?_
  simp [Json.Plain.bool, Json.Plain.int, hfiles]

inductive Produced : LintResult → Prop
  | text {ε : Type} {c : Checker ε} {t : Text} {checked : Checked} (path : Option String)
      (hcheck : c.check t = .ok checked) : Produced (ofChecked path checked)
  | file {ε : Type} {o : LintOptions} {resolve : Resolver ε} {fix : Bool} {tree : Tree} {p : Path}
      {v : FileCheck} (hrun : FileCheck.run o resolve fix tree p = .ok v) : Produced v.result
  | unreadable (path message : String) : Produced (FileCheck.unreadable path message)
  | unwritable {r : LintResult} (hr : Produced r) (path message : String) :
    Produced (FileCheck.unwritable path message r)

lemma reportable_countFields (candidates findings : Nat) :
    (Json.object (countFields candidates findings)).Plain ∧
      (Json.object (countFields candidates findings)).sorted = .object (countFields candidates findings) := by
  constructor
  · exact .object (by simp [countFields]) (by simp [countFields, Json.Plain.int])
  · have hle : "candidates" ≤ "findings" := by decide
    rw [Json.sorted_object_eq]
    simp [countFields, Json.sorted, sortBy, insertBy, Json.keyLe, hle]

lemma reportable_errorAt (code path message : String) :
    (FileCheck.errorAt code path message).detail.Plain ∧
      (FileCheck.errorAt code path message).detail.sorted = (FileCheck.errorAt code path message).detail := by
  constructor
  · exact .object (by simp) (by simp [Json.Plain.str])
  · rfl

lemma reportable_ofChecked {ε : Type} {c : Checker ε} {t : Text} {checked : Checked}
    (hcheck : c.check t = .ok checked) (path : Option String) : (ofChecked path checked).Reportable := by
  refine ⟨?_, by simp [ofChecked], reportable_countFields _ _⟩
  intro f hf
  obtain ⟨s, hs⟩ := (Checker.check_sound hcheck).1 f hf
  rw [hs.finding]
  exact (by decide : Finding.unsortedMessage ≠ "")

lemma reportable_unreadable (path message : String) : (FileCheck.unreadable path message).Reportable :=
  ⟨by simp [FileCheck.unreadable], by simpa [FileCheck.unreadable] using reportable_errorAt _ path message,
    reportable_countFields 0 0⟩

lemma Reportable.unwritable (h : r.Reportable) (path message : String) :
    (FileCheck.unwritable path message r).Reportable :=
  ⟨h.messages, by simpa [FileCheck.unwritable] using reportable_errorAt _ path message, h.counts⟩

lemma reportable_of_visit {ε : Type} {o : LintOptions} {resolve : Resolver ε} {fix : Bool}
    {tree tree' : Tree} {p : Path} (h : FileCheck.Visit o resolve fix tree p r tree') : r.Reportable := by
  cases h with
  | unread => exact reportable_unreadable _ _
  | kept _ _ hcheck => exact reportable_ofChecked hcheck _
  | refused _ _ hcheck => exact (reportable_ofChecked hcheck _).unwritable _ _
  | repaired _ _ hcheck =>
    obtain ⟨hmessages, hdetails, hcounts⟩ := reportable_ofChecked hcheck (some p.toString)
    exact ⟨hmessages, hdetails, hcounts⟩

lemma Produced.reportable (h : r.Produced) : r.Reportable := by
  induction h with
  | text path hcheck => exact reportable_ofChecked hcheck path
  | file hrun =>
    obtain ⟨-, hvisit⟩ := FileCheck.visit_of_run hrun
    exact reportable_of_visit hvisit
  | unreadable path message => exact reportable_unreadable path message
  | unwritable _ path message ih => exact ih.unwritable path message

/-- The text of a report on results that were produced is read as an object with these results, the
verdict on them all and the number of their findings. What was read once from any value is read
again from its own. -/
theorem parse_report_eq_results (rs : List LintResult) (hrs : ∀ r ∈ rs, Produced r) :
    (∃ fields files ok, Json.parse (report rs) = .ok (.object fields) ∧
      fields.lookup "files" = some (.list files) ∧ files.mapM ofJson = .ok rs ∧
      fields.lookup "ok" = some (.bool ok) ∧ (ok = true ↔ ∀ r ∈ rs, r.ok = true) ∧
      fields.lookup "findings" = some (.int ((rs.map fun r => r.findings.length).sum : Nat))) ∧
    ∀ v r, ofJson v = .ok r → ofJson r.toJson = .ok r := by
  refine ⟨?_, fun v r h => ofJson_toJson (messages_of_ofJson h)⟩
  have hreportable : ∀ r ∈ rs, r.Reportable := fun r hr => (hrs r hr).reportable
  have hparse := Json.parse_write Json.Layout.spaced_indented (plain_reportJson hreportable)
    (show Json.IsBlank ['\n'] by simp [Json.IsBlank, Json.isSpace])
  rw [reportJson, Json.sorted_object_eq] at hparse
  refine ⟨_, (rs.map toJson).map Json.sorted, allOk rs, hparse, ?_, ?_, ?_, ?_, ?_⟩
  · rw [Json.lookup_sortBy_keyLe (by simp)]
    simp [List.lookup, Json.sorted, Json.sortedItems_eq_map]
  · rw [List.map_map]
    exact mapM_map_eq_ok fun r hr => (hreportable r hr).ofJson_sorted
  · rw [Json.lookup_sortBy_keyLe (by simp)]
    simp [Json.sorted]
  · simp [allOk]
  · rw [Json.lookup_sortBy_keyLe (by simp)]
    simp [List.lookup, Json.sorted, findingCount_eq_sum]

-- Quotes, backslashes and control characters come back, and so do defaults that were filled in.
theorem parse_report_eq_results_escaped :
    let r := FileCheck.unreadable "a\"\\\n" "\x01é\x7f"
    (∃ fields files, Json.parse (report [r]) = .ok (.object fields) ∧
        fields.lookup "files" = some (.list files) ∧ files.mapM ofJson = .ok [r] ∧
        fields.lookup "ok" = some (.bool false)) ∧
      ofJson (LintResult.toJson ⟨false, some "1", [], [], [("k", .null)], true⟩) =
        .ok ⟨false, some "1", [], [], [("k", .null)], true⟩ := by
  intro r
  obtain ⟨⟨fields, files, ok, hparse, hfiles, hresults, hok, hall, -⟩, hread⟩ :=
    parse_report_eq_results [r] (List.forall_mem_singleton.mpr (.unreadable _ _))
  constructor
  · have hfalse : ok = false := by
      rw [← Bool.not_eq_true, hall]
      simp [r, FileCheck.unreadable]
    exact ⟨fields, files, hparse, hfiles, hresults, hfalse ▸ hok⟩
  · let v : Json := .object [("path", .int 1), ("fixed", .str "x"), ("meta", .list [.list [.str "k", .null]])]
    exact hread v _ rfl

end LintResult

end ClassTidy
