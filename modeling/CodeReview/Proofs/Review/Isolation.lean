import CodeReview.Proofs.Review.Passes
import CodeReview.Proofs.Settings.Accepted
import Mathlib.Data.List.Nodup

/-!
# A review file by file

A review of a directory takes all findings of the rules together, sorts them, gathers what the
service says of one file after another, merges the two and sorts again.  Nothing of that mixes the
files: what the review finds in one of them is what is found in its text alone
(`review_eq_reviewText`), with the service or without it according to the place of the file and the
length of its text.

The service is one that answers a prompt always alike (`Service.AnswersBy`), and the disk one that
may refuse to read some files, but not one time and another time not (`Storage.MayRefuse`,
`Storage.ReadsAlike`).

The idea is that selecting the findings of one file commutes with all that is done to findings.  It
does with sorting, because sorting is stable; with merging, because findings of different files have
different keys, so none of them drives out another's; and with going through the files, because each
is listed once.
-/

set_option autoImplicit false

namespace CodeReview

open CodeReview.Run

namespace Reviewer

variable [Text.Spare] {σ : Type} {disk : σ → Disk} {r : Reviewer σ} {path : String}
  {paths : List String} {s : σ} {service : Service σ} {say : String → String → List Finding}
  {answer : String → Except Fault String}

/-! ## A text at hand

A text that is reviewed by itself goes through neither of the passes, and nothing is gathered: the
rules are applied to it, and what the service says is merged in. -/

omit [Text.Spare] in
theorem file_of_mem_scan {rules : List Rule} {text : String} {f : Finding}
    (h : f ∈ Rule.scan rules text path) : f.file = path := by
  obtain ⟨rule, -, hf⟩ := List.mem_flatMap.1 (Finding.mem_sort.1 h)
  obtain ⟨before, line, following, -, -, rfl⟩ := Rule.mem_findingsFrom.1 hf
  rfl

omit [Text.Spare] in
theorem file_of_mem_foundAt {f : Finding} (h : f ∈ r.foundAt s path) : f.file = path := by
  rw [foundAt] at h
  split at h
  · exact file_of_mem_scan h
  · cases h

omit [Text.Spare] in
theorem sort_scanText (text path : String) :
    Finding.sort (Rule.scanText text path) = Rule.scanText text path := Finding.sort_sort _

/-- **What is found in a text at hand.** -/
theorem yields_reviewText {d : Disk} (hsay : r.Says disk say) {mode : Option Mode}
    (hmode : mode.getD r.settings.mode ∈ [Mode.fast, .thorough, .hybrid]) (content path : String) :
    Yields disk d (r.reviewText content path mode)
      (Finding.merge
        (if (mode.getD r.settings.mode).usesRules then Rule.scanText content path else [])
        (r.heard (mode.getD r.settings.mode) (say path content))) := by
  rw [reviewText]
  generalize mode.getD r.settings.mode = mode at hmode ⊢
  have halone : Finding.merge (if mode.usesRules then Rule.scanText content path else []) []
      = if mode.usesRules then Rule.scanText content path else [] := by
    rw [Finding.merge_nil]
    split
    · exact sort_scanText content path
    · exact Finding.sort_nil
  cases hr : r.service with
  | none =>
    rw [heard_of_none hr, halone]
    exact yields_pure _
  | some service =>
    rw [heard_of_some hr]
    obtain ⟨a, ha, hfindings⟩ := (hsay service hr path content).1
    have hasked : Yields disk d (do
        let a ← Paging.standard.analyze service ⟨content, path, none, none⟩
        pure (Finding.merge (if mode.usesRules then Rule.scanText content path else []) a.findings))
        (Finding.merge (if mode.usesRules then Rule.scanText content path else [])
          (say path content)) := by
      rw [← hfindings]
      exact (ha d).bind (yields_pure _)
    simp only [List.mem_cons, List.not_mem_nil, or_false] at hmode
    rcases hmode with rfl | rfl | rfl
    · rw [show Mode.usesService .fast = false from rfl, if_neg Bool.false_ne_true, halone]
      exact yields_pure _
    · exact hasked
    · exact hasked

/-- What is found in a text at hand, with the service or without it. -/
theorem result_reviewText_shown (hsay : r.Says disk say) {mode : Option Mode}
    (hmode : mode.getD r.settings.mode ∈ [Mode.fast, .thorough, .hybrid]) (content path : String)
    (shown : Prop) [Decidable shown] (s : σ) :
    (({ r with service := if shown then r.service else none } : Reviewer σ).reviewText
        content path mode s).result
      = .ok (Finding.merge
          (if (mode.getD r.settings.mode).usesRules then Rule.scanText content path else [])
          (r.heard (mode.getD r.settings.mode) (if shown then say path content else []))) := by
  by_cases hshown : shown
  · rw [if_pos hshown, if_pos hshown]
    exact (yields_reviewText hsay hmode content path).result_eq rfl
  · rw [if_neg hshown, if_neg hshown, heard_nil]
    have hnone : ({ r with service := none } : Reviewer σ).Says disk say :=
      fun service hservice => absurd hservice (Option.not_mem_none service)
    have hresult := (yields_reviewText hnone hmode content path).result_eq (s := s) rfl
    rwa [heard_of_none rfl] at hresult

/-! ## One file among others

What a review finds in files, cut down to one of them. -/

omit [Text.Spare] in
theorem filter_heard (p : Finding → Bool) (mode : Mode) (findings : List Finding) :
    (r.heard mode findings).filter p = r.heard mode (findings.filter p) := by
  rw [heard, heard]
  split <;> rfl

omit [Text.Spare] in
/-- What is listed once is among the first ones if its position is. -/
theorem mem_take_iff {i n : Nat} (hnodup : paths.Nodup) (hi : paths[i]? = some path) :
    path ∈ paths.take n ↔ i < n := by
  obtain ⟨hlt, hget⟩ := List.getElem?_eq_some_iff.1 hi
  rw [List.mem_take_iff_getElem]
  constructor
  · rintro ⟨j, hj, hpath⟩
    have hji : j = i := (hnodup.getElem_inj_iff).1 (hpath.trans hget.symm)
    omega
  · intro hn
    exact ⟨i, by omega, hget⟩

theorem file_of_mem_foundByService (hsay : r.Says disk say) (hr : r.service = some service)
    {f : Finding} (h : f ∈ r.foundByService say s path) : f.file = path := by
  rw [foundByService] at h
  cases hshown : r.shownAt s path with
  | none =>
    rw [hshown] at h
    cases h
  | some content =>
    rw [hshown] at h
    exact (hsay service hr path content).2 f h

omit [Text.Spare] in
theorem filter_foundInMode (hnodup : paths.Nodup) (hpath : path ∈ paths) (mode : Mode) :
    (r.foundInMode mode s paths).filter (fun f => f.file == path)
      = Finding.sort (if mode.usesRules then r.foundAt s path else []) := by
  rw [foundInMode, Finding.filter_sort]
  split
  · rw [Finding.filter_flatMap_file hnodup (fun q f hf => file_of_mem_foundAt hf), if_pos hpath]
  · rfl

/-- What a review finds in one of its files. -/
theorem filter_foundIn (hsay : r.Says disk say) (hnodup : paths.Nodup) {i : Nat}
    (hi : paths[i]? = some path) (mode : Mode) :
    (r.foundIn say mode s paths).filter (fun f => f.file == path) =
      Finding.merge (Finding.sort (if mode.usesRules then r.foundAt s path else []))
        (r.heard mode
          (if i < r.settings.maxServiceFiles then r.foundByService say s path else [])) := by
  have hkey : ∀ f g : Finding, f.key = g.key → (f.file == path) = (g.file == path) :=
    fun f g h => by rw [Finding.file_eq_of_key_eq h]
  rw [foundIn, Finding.filter_merge hkey, filter_foundInMode hnodup (List.mem_of_getElem? hi),
    filter_heard]
  cases hr : r.service with
  | none => rw [heard_of_none hr, heard_of_none hr]
  | some service =>
    rw [Finding.filter_flatMap_file (hnodup.sublist (List.take_sublist _ _))
      (fun q f hf => file_of_mem_foundByService hsay hr hf)]
    simp only [mem_take_iff hnodup hi]

/-- Nothing is found in a file that cannot be read. -/
theorem filter_foundIn_of_error (hsay : r.Says disk say) (hnodup : paths.Nodup) {i : Nat}
    (hi : paths[i]? = some path) (mode : Mode) {f : Disk.Fault}
    (hf : r.storage.read path s = .error f) :
    (r.foundIn say mode s paths).filter (fun g => g.file == path) = [] := by
  have hrules : r.foundAt s path = [] := by rw [foundAt, hf]
  have hshown : r.foundByService say s path = [] := by
    rw [foundByService, shownAt, hf]
    rfl
  rw [filter_foundIn hsay hnodup hi, hrules, hshown, ite_self, ite_self, heard_nil,
    Finding.sort_nil, Finding.merge_nil, Finding.sort_nil]

/-- What is found in a file that can be read is found in its text. -/
theorem filter_foundIn_of_ok (hsay : r.Says disk say) (hnodup : paths.Nodup) {i : Nat}
    (hi : paths[i]? = some path) (mode : Mode) {content : String}
    (hcontent : r.storage.read path s = .ok content) :
    (r.foundIn say mode s paths).filter (fun g => g.file == path) =
      Finding.merge (if mode.usesRules then Rule.scanText content path else [])
        (r.heard mode (if i < r.settings.maxServiceFiles
            ∧ content.length ≤ r.settings.maxFileChars then say path content else [])) := by
  have hrules : r.foundAt s path = Rule.scanText content path := by rw [foundAt, hcontent]
  have hsorted : Finding.sort (if mode.usesRules then Rule.scanText content path else [])
      = if mode.usesRules then Rule.scanText content path else [] := by
    split
    · exact sort_scanText content path
    · exact Finding.sort_nil
  have hboth : (if i < r.settings.maxServiceFiles then r.foundByService say s path else [])
      = if i < r.settings.maxServiceFiles ∧ content.length ≤ r.settings.maxFileChars
        then say path content else [] := by
    rw [foundByService, shownAt, hcontent, Except.toOption, Option.filter_some, ite_and]
    by_cases hshort : content.length ≤ r.settings.maxFileChars <;> simp [hshort]
  rw [filter_foundIn hsay hnodup hi, hrules, hsorted, hboth]

/-- **A file is reviewed by itself.**  Let a service answer a prompt always alike, and let its
answers be readable.  What a review of a directory finds in one of its files is what is found in
the text of the file alone, in the same order: with the service if the file is among the first ones
and not too long, without it otherwise.  A file that cannot be read, for whatever reason, adds
nothing. -/
theorem review_eq_reviewText (hstorage : r.storage.MayRefuse disk)
    (hsteady : r.storage.ReadsAlike disk) {fields : Json.Fields}
    (hsettings : ReviewSettings.ofFields fields = .valid r.settings)
    (hservice : ∀ service ∈ r.service, service.AnswersBy disk answer)
    (hanswer : ∀ prompt reply, answer prompt = .ok reply → IsReadable reply)
    {mode : Option Mode} (hmode : ∀ m ∈ mode, m ∈ [Mode.fast, .thorough, .hybrid]) {root : String}
    {s : σ} (hroot : (disk s).isDir root = true) (timestamp : String) :
    ∃ report, (r.review root mode timestamp s).result = .ok report ∧
      ∃ paths, (disk s).discover root r.extensions r.settings.maxFileBytes = .ok paths ∧
        ∀ i path, paths[i]? = some path →
          (∀ f, r.storage.read path s = .error f →
            report.findings.filter (fun g => g.file == path) = []) ∧
          ∀ content, r.storage.read path s = .ok content → ∀ s',
            (({ r with
                service := if i < r.settings.maxServiceFiles
                    ∧ content.length ≤ r.settings.maxFileChars then r.service else none } :
                Reviewer σ).reviewText content path mode s').result
              = .ok (report.findings.filter fun g => g.file == path) := by
  obtain ⟨hknown, -, -, hbytes, hdelay⟩ := ReviewSettings.bounds_of_ofFields hsettings
  obtain ⟨say, hsay⟩ := exists_says hservice hanswer
  obtain ⟨report, hreport, hfound⟩ := exists_yields_review hstorage hsteady hdelay hbytes hservice
    hanswer hsay hroot mode timestamp
  refine ⟨report, hreport.result_eq rfl, _, Disk.discover_of_isDir hroot (by omega), ?_⟩
  have hmode' : mode.getD r.settings.mode ∈ [Mode.fast, .thorough, .hybrid] := by
    cases mode with
    | none => exact hknown
    | some m => exact hmode m rfl
  intro i path hi
  rw [hfound]
  refine ⟨fun f hf => filter_foundIn_of_error hsay Disk.nodup_discoverBelow hi _ hf, ?_⟩
  intro content hcontent s'
  rw [filter_foundIn_of_ok hsay Disk.nodup_discoverBelow hi _ hcontent]
  exact result_reviewText_shown hsay hmode' content path _ s'

omit [Text.Spare] in
/-- Three files, of which the last one is listed and cannot be read, and a service that has
something to say of every file but may be shown one of them only. -/
theorem review_eq_reviewText_three_files :
    letI : Text.Spare := ⟨0⟩
    let reply := "\x7b\"issues\": [\x7b\"severity\": \"high\", \"message\": \"m\"\x7d]\x7d"
    let d := Disk.twoFiles.put "/w/c.js" "eval(y)\n".toUTF8
    let storage : Storage Disk := (Storage.ofDisk id fun d _ => d).without "/w/c.js"
    let r : Reviewer Disk := ⟨⟨.hybrid, 1, 50000, 1000000, ReviewSettings.defaultDelay, false⟩,
      some (.always reply), storage, Disk.defaultExtensions⟩
    storage.MayRefuse id ∧ storage.ReadsAlike id ∧
      d.discover "/w" Disk.defaultExtensions 1000000 = .ok ["/w/a.js", "/w/b.js", "/w/c.js"] ∧
      ∃ report, (r.review "/w" none "2024-01-01" d).result = .ok report ∧
        (r.reviewText "eval(x)\n" "/w/a.js" none d).result
          = .ok (report.findings.filter fun f => f.file == "/w/a.js") ∧
        (({ r with service := none } : Reviewer Disk).reviewText "f()\n" "/w/b.js" none d).result
          = .ok (report.findings.filter fun f => f.file == "/w/b.js") ∧
        report.findings.filter (fun f => f.file == "/w/c.js") = [] := by
  let : Text.Spare := ⟨0⟩
  intro reply d storage r
  have hstorage : storage.MayRefuse id := Storage.MayRefuse.ofDisk_id.without "/w/c.js"
  have hsteady : storage.ReadsAlike id := Storage.readsAlike_ofDisk_id.without "/w/c.js"
  have hroot : (id d).isDir "/w" = true := by decide +kernel
  have hplace : d.locate "/w" = .ok ["/", "w"] := by decide +kernel
  have hpaths : d.discover "/w" Disk.defaultExtensions 1000000
      = .ok ["/w/a.js", "/w/b.js", "/w/c.js"] :=
    Disk.discover_of_pairwise hroot (by decide) hplace (by decide +kernel) (by decide)
  obtain ⟨hservice, hanswer⟩ :=
    readable_always (id : Disk → Disk) reply (by decide +kernel) (by decide +kernel)
  have hsettings : ReviewSettings.ofFields [("max_ai_files", .int 1)] = .valid r.settings := rfl
  have hmode : ∀ m ∈ (none : Option Mode), m ∈ [Mode.fast, .thorough, .hybrid] := by simp
  obtain ⟨report, hreport, paths, hlisted, hfiles⟩ := review_eq_reviewText (r := r) hstorage hsteady
    hsettings hservice hanswer hmode hroot "2024-01-01"
  obtain rfl := Except.ok.inj (hpaths.symm.trans hlisted)
  refine ⟨hstorage, hsteady, hpaths, report, hreport, ?_, ?_, ?_⟩
  · exact (hfiles 0 "/w/a.js" rfl).2 "eval(x)\n" (by decide +kernel) d
  · exact (hfiles 1 "/w/b.js" rfl).2 "f()\n" (by decide +kernel) d
  · exact (hfiles 2 "/w/c.js" rfl).1 (.refused .noEntry "/w/c.js") rfl

end Reviewer
end CodeReview
