import Mathlib.Data.List.Induction
import CodeReview.Proofs.Disk.Relative
import CodeReview.Report.Markdown

/-!
# The sections of a report

Findings go one by one into the section of their heading, and a section is made when its heading
first comes up.  What comes of it is the stable grouping of the findings by heading
(`sections_eq`): the sections stand in the order in which their headings first come up, and each
holds the findings of its heading in the order of the report.  This has no state, and everything
else is read off it.

For a reader of the report the heading is a file.  What is compared, though, is its title, and the
title of a file is its way from the base directory.  If two files had one title, their findings
would stand in one section.  For normal paths they have not (`title_eq_iff`), so there is one
section for each file with findings (`markdown_issues`).
## What is here

* `eraseDups_concat`, `pairwise_idxOf_eraseDups` — first occurrences, for a list that grows at its
  end;
* `addTo_map`, `sections_eq` — one more finding, and all of them;
* `title`, `title_eq_iff` — the title of a file, which tells normal paths apart;
* `markdown_issues` — the report as a text: each finding once, under its file, in the order of the
  report.
-/

set_option autoImplicit false

namespace CodeReview.Report

/-! ## First occurrences

`List.eraseDups` keeps the first of what occurs more than once.  The list grows at its end here,
which is not how it is defined. -/

section Firsts

variable {α β : Type} [DecidableEq α] [DecidableEq β]

theorem eraseDups_concat (xs : List α) (x : α) :
    (xs ++ [x]).eraseDups = if x ∈ xs then xs.eraseDups else xs.eraseDups ++ [x] := by
  rw [List.eraseDups_append]
  by_cases hx : x ∈ xs <;> simp [List.removeAll, hx, List.eraseDups_cons]

/-- What is there more than once is kept where it comes first. -/
theorem pairwise_idxOf_eraseDups (xs : List α) :
    xs.eraseDups.Pairwise fun a b => xs.idxOf a < xs.idxOf b := by
  induction xs using List.reverseRecOn with
  | nil => simp
  | append_singleton xs x ih =>
    have hold : xs.eraseDups.Pairwise fun a b => (xs ++ [x]).idxOf a < (xs ++ [x]).idxOf b := by
      refine ih.imp_of_mem fun ha hb hlt => ?_
      rwa [List.idxOf_append_of_mem (List.mem_eraseDups.1 ha),
        List.idxOf_append_of_mem (List.mem_eraseDups.1 hb)]
    rw [eraseDups_concat]
    split
    · exact hold
    · rename_i hx
      refine List.pairwise_append.2 ⟨hold, List.pairwise_singleton _ _, fun a ha b hb => ?_⟩
      obtain rfl := List.mem_singleton.1 hb
      rw [List.idxOf_append_of_mem (List.mem_eraseDups.1 ha), List.idxOf_append_of_notMem hx]
      exact Nat.lt_add_right _ (List.idxOf_lt_length_of_mem (List.mem_eraseDups.1 ha))

theorem eraseDups_map {f : α → β} {xs : List α} (hf : ∀ a ∈ xs, ∀ b ∈ xs, f a = f b → a = b) :
    (xs.map f).eraseDups = xs.eraseDups.map f := by
  induction xs using List.reverseRecOn with
  | nil => rfl
  | append_singleton xs x ih =>
    have hmem : f x ∈ xs.map f ↔ x ∈ xs := by
      refine ⟨fun h => ?_, List.mem_map_of_mem⟩
      obtain ⟨a, ha, heq⟩ := List.mem_map.1 h
      rwa [← hf a (List.mem_append_left _ ha) x List.mem_concat_self heq]
    have ih := ih fun a ha b hb => hf a (List.mem_append_left _ ha) b (List.mem_append_left _ hb)
    rw [List.map_append, List.map_singleton, eraseDups_concat, eraseDups_concat, ih]
    by_cases hx : x ∈ xs <;> simp [hmem, hx]

end Firsts

/-! ## Grouping

The invariant of the loop: after some findings the sections are the grouping of these.  `addTo_map`
is its step, for a section that is there and for a new one. -/

section Grouping

variable {heading : Finding → String} {fs : List Finding}

/-- A finding goes to the end of its section, and a section that is new to the end of them all. -/
theorem addTo_map {k : String} {f : Finding} {keys : List String} {held : String → List Finding}
    (hnodup : keys.Nodup) (hnew : k ∉ keys → held k = []) :
    addTo k f (keys.map fun j => (j, held j))
      = (if k ∈ keys then keys else keys ++ [k]).map fun j =>
          (j, if j = k then held j ++ [f] else held j) := by
  induction keys with
  | nil => simp [addTo, hnew]
  | cons j keys ih =>
    obtain ⟨hj, hnodup⟩ := List.nodup_cons.1 hnodup
    rw [List.map_cons, addTo]
    split
    · rename_i heq
      subst heq
      have hothers : keys.map (fun i => (i, held i))
          = keys.map fun i => (i, if i = j then held i ++ [f] else held i) := by
        refine List.map_congr_left fun i hi => ?_
        rw [if_neg (ne_of_mem_of_not_mem hi hj)]
      rw [if_pos List.mem_cons_self, List.map_cons, if_pos rfl, hothers]
    · rename_i hne
      have hmem : k ∈ j :: keys ↔ k ∈ keys := by simp [Ne.symm hne]
      rw [ih hnodup fun hk => hnew (hmem.not.2 hk)]
      by_cases hk : k ∈ keys <;> simp [hk, hne, Ne.symm hne]

/-- **Sections are the stable grouping by heading:** they stand in the order in which their headings
come up first, and each holds its findings in the order given. -/
theorem sections_eq (heading : Finding → String) (fs : List Finding) :
    sections heading fs
      = (fs.map heading).eraseDups.map fun k => (k, fs.filter (heading · = k)) := by
  induction fs using List.reverseRecOn with
  | nil => rfl
  | append_singleton fs f ih =>
    have hnew : heading f ∉ (fs.map heading).eraseDups →
        fs.filter (heading · = heading f) = [] := by
      intro hf
      rw [List.mem_eraseDups] at hf
      refine List.filter_eq_nil_iff.2 fun g hg heq => hf ?_
      exact of_decide_eq_true heq ▸ List.mem_map_of_mem hg
    have hstep : sections heading (fs ++ [f]) = addTo (heading f) f (sections heading fs) :=
      List.foldl_append
    rw [hstep, ih, addTo_map (Disk.nodup_eraseDups _) hnew, List.map_append, List.map_singleton,
      eraseDups_concat]
    simp only [List.mem_eraseDups]
    refine List.map_congr_left fun k _ => ?_
    rw [List.filter_append]
    by_cases hk : k = heading f
    · simp [hk]
    · simp [hk, Ne.symm hk]

/-- Groups of all keys hold what was grouped. -/
theorem flatMap_filter_perm {keys : List String} (hnodup : keys.Nodup)
    (h : ∀ f ∈ fs, heading f ∈ keys) :
    (keys.flatMap fun k => fs.filter (heading · = k)).Perm fs := by
  induction keys generalizing fs with
  | nil =>
    obtain rfl := List.eq_nil_iff_forall_not_mem.2 fun f hf => List.not_mem_nil (h f hf)
    exact .refl []
  | cons k keys ih =>
    obtain ⟨hk, hnodup⟩ := List.nodup_cons.1 hnodup
    have hothers : ∀ f ∈ fs.filter fun f => !decide (heading f = k), heading f ∈ keys := by
      intro f hf
      obtain ⟨hmem, hne⟩ := List.mem_filter.1 hf
      exact (List.mem_cons.1 (h f hmem)).resolve_left (by simpa using hne)
    have hsame : (keys.flatMap fun j => fs.filter (heading · = j))
        = keys.flatMap fun j =>
            (fs.filter fun f => !decide (heading f = k)).filter (heading · = j) := by
      refine List.flatMap_congr fun j hj => ?_
      rw [List.filter_filter]
      refine List.filter_congr fun f _ => ?_
      have hjk := ne_of_mem_of_not_mem hj hk
      by_cases hf : heading f = j <;> simp [hf, hjk]
    rw [List.flatMap_cons, hsame]
    exact ((ih hnodup hothers).append_left _).trans (List.filter_append_perm _ fs)

end Grouping

/-! ## Titles

A base directory that is empty counts as none. -/

/-- The title of a file: its way from the base directory, or itself if there is none.  An empty base
directory counts as none. -/
def title (base : Option String) (file : String) : String :=
  (base.filter (· ≠ "")).elim file fun base => Path.relativeTo base file

theorem heading_eq_title (base : Option String) (f : Finding) :
    heading (base.filter (· ≠ "")) f = title base f.file := by
  rw [title]
  cases base.filter (· ≠ "") with
  | none => rfl
  | some base => rw [heading, Option.elim_some]

/-- Titles tell normal paths apart. -/
theorem title_eq_iff (base : Option String) {file file' : String} (h : Path.IsNormal file)
    (h' : Path.IsNormal file') : title base file = title base file' ↔ file = file' := by
  rw [title, title]
  cases base.filter (· ≠ "") with
  | none => exact Iff.rfl
  | some base =>
    rw [Option.elim_some, Option.elim_some]
    exact Path.relativeTo_eq_iff base h h'

theorem ne_empty_of_isNormal {file : String} (h : Path.IsNormal file) : file ≠ "" := by
  rintro rfl
  exact absurd h.isAbsolute (by decide)

/-! ## Reports for readers

The text is the opening lines and then the sections, each with its title and its findings. -/

/-- What stands before the findings. -/
def openingLines (r : Report) : List String :=
  r.summaryLines ++ (r.insights.bind (·.architecture)).elim [] architectureLines

/-- The sections by title are the groups by file. -/
theorem sections_title {fs : List Finding} {base : Option String}
    (h : ∀ f ∈ fs, Path.IsNormal f.file) :
    sections (heading (base.filter (· ≠ ""))) fs
      = (fs.map (·.file)).eraseDups.map fun file =>
          (title base file, fs.filter (·.file = file)) := by
  have hmap : fs.map (heading (base.filter (· ≠ ""))) = (fs.map (·.file)).map (title base) := by
    rw [List.map_map]
    exact List.map_congr_left fun f _ => heading_eq_title base f
  have hnormal : ∀ file ∈ fs.map (·.file), Path.IsNormal file := by
    intro file hfile
    obtain ⟨f, hf, rfl⟩ := List.mem_map.1 hfile
    exact h f hf
  rw [sections_eq, hmap, eraseDups_map fun a ha b hb => (title_eq_iff base (hnormal a ha)
    (hnormal b hb)).1, List.map_map]
  refine List.map_congr_left fun file hfile => ?_
  have hentries : fs.filter (heading (base.filter (· ≠ "")) · = title base file)
      = fs.filter (·.file = file) := by
    refine List.filter_congr fun f hf => ?_
    rw [heading_eq_title, decide_eq_decide]
    exact title_eq_iff base (h f hf) (hnormal file (List.mem_eraseDups.1 hfile))
  rw [Function.comp_apply, hentries]

/-- **A report for readers** lists every finding once, under its file.  There is one section for
each file with findings, in the order of their first findings, and different files have different
titles.  One section after another gives the findings grouped by file, those of a file in the order
of the report; each is shown by its line, severity, category and message, and what else it has. -/
theorem markdown_issues (r : Report) (base : Option String)
    (h : ∀ f ∈ r.findings, Path.IsNormal f.file) :
    let shown := r.findings.map (·.file)
    let files := shown.eraseDups
    let entries := fun file => r.findings.filter (·.file = file)
    let issues := if r.findings = [] then ["No issues found."]
      else ["## Issues", ""] ++ files.flatMap fun file =>
        ["### " ++ title base file, ""] ++ (entries file).flatMap findingLines ++ [""]
    r.markdown base = .ok (String.intercalate "\n" (r.openingLines ++ issues)) ∧
      (∀ file, file ∈ files ↔ ∃ f ∈ r.findings, f.file = file) ∧
      files.Pairwise (fun a b => shown.idxOf a < shown.idxOf b) ∧
      (files.map (title base)).Nodup ∧
      (∀ f ∈ r.findings, ∀ g ∈ r.findings,
        title base f.file = title base g.file ↔ f.file = g.file) ∧
      (base = none → ∀ file, title base file = file) ∧
      (files.flatMap entries).Perm r.findings ∧
      ∀ f ∈ r.findings, ∃ more, findingLines f
        = s!"- **Line {f.line}** [{f.severity.heading}] [{f.category}]" :: ("  - " ++ f.message)
          :: more := by
  intro shown files entries issues
  have hmem (file : String) : file ∈ files ↔ ∃ f ∈ r.findings, f.file = file := by
    rw [List.mem_eraseDups, List.mem_map]
  have hnormal : ∀ file ∈ files, Path.IsNormal file := by
    intro file hfile
    obtain ⟨f, hf, rfl⟩ := (hmem file).1 hfile
    exact h f hf
  have hnodup : files.Nodup := Disk.nodup_eraseDups shown
  refine ⟨?_, hmem, pairwise_idxOf_eraseDups shown, ?_, fun f hf g hg => title_eq_iff base (h f hf)
    (h g hg), ?_, flatMap_filter_perm hnodup fun f hf => (hmem f.file).2 ⟨f, hf, rfl⟩,
    fun f _ => ⟨_, rfl⟩⟩
  · have hnamed : r.findings.any (·.file = "") = false := by
      rw [List.any_eq_false]
      exact fun f hf => by simpa using ne_empty_of_isNormal (h f hf)
    have hissues : issueLines (base.filter (· ≠ "")) r.findings = issues := by
      rw [issueLines, sections_title h, List.flatMap_map]
      by_cases hr : r.findings = []
      · simp [issues, hr]
      · simp only [issues, if_neg hr, List.isEmpty_iff]
        rfl
    rw [markdown, hnamed, Bool.and_false, if_neg Bool.false_ne_true, markdownLines, hissues]
    rfl
  · refine hnodup.map_on fun a ha b hb => (title_eq_iff base (hnormal a ha) (hnormal b hb)).1
  · rintro rfl file
    rfl

/-- A finding of another file stands between two of one file, and that file is in the base
directory. -/
theorem markdown_issues_two_files :
    let finding := fun file line message =>
      Finding.mk .error .high "c" message file line none none none false
    let r := build [finding "/w/src/a.js" 3 "m", finding "/w/lib/b.js" 1 "n",
      finding "/w/src/a.js" 5 "o"] 2 "T" none
    (∀ f ∈ r.findings, Path.IsNormal f.file) ∧
      r.markdown (some "/w/src") = .ok (String.intercalate "\n" (r.openingLines ++
        ["## Issues", "", "### a.js", "", "- **Line 3** [HIGH] [c]", "  - m",
          "- **Line 5** [HIGH] [c]", "  - o", "", "### ../lib/b.js", "",
          "- **Line 1** [HIGH] [c]", "  - n", ""])) := by
  intro finding r
  have hnormal : ∀ f ∈ r.findings, Path.IsNormal f.file := by decide
  obtain ⟨hmarkdown, -⟩ := markdown_issues r (some "/w/src") hnormal
  exact ⟨hnormal, hmarkdown.trans (congrArg (fun issues => Except.ok (String.intercalate "\n"
    (r.openingLines ++ issues))) (by decide))⟩

end CodeReview.Report
