import MagalixAgent.Kuber.Resources
import MagalixAgent.Go.Strings

namespace MagalixAgent.Kuber

open Regexp

/-! # Pod names

Each Resource carries the pattern that links pods to it by name. The workload's
name is quoted by `QuoteMeta`, so it matches itself literally whatever
metacharacters it holds, and the tail after it fixes the shape of the rest:
one dash-free segment, two, or a run of digits. Every pattern compiles, so
`MustCompile` never panics (`getResources_podRegexp`). -/

/-- A non-empty segment of a pod name without `-`. -/
def Segment (s : String) : Prop := s.data ≠ [] ∧ '-' ∉ s.data

/-- A non-empty run of ASCII digits. -/
def Ordinal (s : String) : Prop := s.data ≠ [] ∧ ∀ c ∈ s.data, c.isDigit

/-- The pod names the spec gives the workload `name` of `kind`. -/
def PodNameOf (kind name podName : String) : Prop :=
  if kind = "OrphanPod" then podName = name
  else if kind = "StatefulSet" then ∃ ordinal, podName = name ++ "-" ++ ordinal ∧ Ordinal ordinal
  else if kind = "Deployment" ∨ kind = "CronJob" then
    ∃ hash suffix, podName = name ++ "-" ++ hash ++ "-" ++ suffix ∧ Segment hash ∧ Segment suffix
  else ∃ suffix, podName = name ++ "-" ++ suffix ∧ Segment suffix

/-! ## The tails -/

/-- What `-[^-]+$` compiles to. -/
def singleSegmentTail : Regex :=
  .concat (.literal '-') (.concat (.plus (.charClass true [('-', '-')])) (.concat .endText .empty))

/-- What `-[^-]+-[^-]+$` compiles to. -/
def doubleSegmentTail : Regex :=
  .concat (.literal '-') (.concat (.plus (.charClass true [('-', '-')])) singleSegmentTail)

/-- What `-([0-9]+)$` compiles to. -/
def ordinalTail : Regex :=
  .concat (.literal '-')
    (.concat (.capture (.concat (.plus (.charClass false [('0', '9')])) .empty))
      (.concat .endText .empty))

theorem parseSeq_singleSegmentTail (fuel : Nat) :
    parseSeq (fuel + ("-[^-]+$".data.length + 1)) "-[^-]+$".data = .ok (singleSegmentTail, []) :=
  rfl

theorem parseSeq_doubleSegmentTail (fuel : Nat) :
    parseSeq (fuel + ("-[^-]+-[^-]+$".data.length + 1)) "-[^-]+-[^-]+$".data =
      .ok (doubleSegmentTail, []) :=
  rfl

theorem parseSeq_ordinalTail (fuel : Nat) :
    parseSeq (fuel + ("-([0-9]+)$".data.length + 1)) "-([0-9]+)$".data = .ok (ordinalTail, []) :=
  rfl

theorem parseSeq_endText (fuel : Nat) :
    parseSeq (fuel + ("$".data.length + 1)) "$".data = .ok (.concat .endText .empty, []) :=
  rfl

theorem classMatches_dash (c : Char) : classMatches true [('-', '-')] c = true ↔ c ≠ '-' := by
  by_cases dash : c = '-'
  · subst dash
    decide
  · simp [classMatches, dash]

theorem classMatches_digit (c : Char) :
    classMatches false [('0', '9')] c = true ↔ c.isDigit = true := by
  simp [classMatches, Char.isDigit, Char.le_def]

/-! ## From positions to names -/

theorem append_dash_data (name suffix : String) :
    (name ++ "-" ++ suffix).data = name.data ++ '-' :: suffix.data := by
  simp [String.data_append]

/-- A match after the quoted name starts with `-`, and what follows is the
rest of the pod's name. -/
theorem dash_suffix_iff {name podName : String} {accepts : List Char → Prop} :
    (∃ rest, podName.data = name.data ++ rest ∧ ∃ suffix, rest = '-' :: suffix ∧ accepts suffix) ↔
      ∃ suffix : String, podName = name ++ "-" ++ suffix ∧ accepts suffix.data := by
  constructor
  · rintro ⟨_, split, suffix, rfl, accepted⟩
    exact ⟨⟨suffix⟩, String.ext (by rw [split, append_dash_data]), accepted⟩
  · rintro ⟨suffix, rfl, accepted⟩
    exact ⟨_, append_dash_data name suffix, suffix.data, rfl, accepted⟩

/-- A run of a class, then the end. -/
theorem run_to_end_iff {accepted : Char → Bool} {suffix : List Char} :
    (∃ run rest, suffix = run ++ rest ∧ run ≠ [] ∧ (∀ c ∈ run, accepted c = true) ∧ rest = []) ↔
      suffix ≠ [] ∧ ∀ c ∈ suffix, accepted c = true := by
  constructor
  · rintro ⟨run, _, rfl, nonempty, classed, rfl⟩
    exact ⟨by simpa using nonempty, by simpa using classed⟩
  · rintro ⟨nonempty, classed⟩
    exact ⟨suffix, [], (List.append_nil _).symm, nonempty, classed, rfl⟩

theorem segment_iff (suffix : String) :
    (suffix.data ≠ [] ∧ ∀ c ∈ suffix.data, classMatches true [('-', '-')] c = true) ↔
      Segment suffix := by
  simp only [classMatches_dash, Segment]
  exact and_congr_right fun _ => ⟨fun free dash => free '-' dash rfl, fun free c member same =>
    free (same ▸ member)⟩

/-! ## The four patterns -/

theorem singleSegmentPattern_matches (name : String) :
    ∃ regex, compile (singleSegmentPattern name) = .ok regex ∧
      ∀ podName : String, matchString regex podName = true ↔
        ∃ suffix, podName = name ++ "-" ++ suffix ∧ Segment suffix := by
  obtain ⟨regex, compiled, matching⟩ := anchored_quoteMeta name (by rfl) parseSeq_singleSegmentTail
    ((endsExactly_endText.plus true [('-', '-')]).literal '-')
  refine ⟨regex, compiled, fun podName => (matching podName).trans ?_⟩
  simp only [dash_suffix_iff, run_to_end_iff, segment_iff]

theorem doubleSegmentPattern_matches (name : String) :
    ∃ regex, compile (doubleSegmentPattern name) = .ok regex ∧
      ∀ podName : String, matchString regex podName = true ↔
        ∃ hash suffix, podName = name ++ "-" ++ hash ++ "-" ++ suffix ∧
          Segment hash ∧ Segment suffix := by
  obtain ⟨regex, compiled, matching⟩ := anchored_quoteMeta name (by rfl) parseSeq_doubleSegmentTail
    (((((endsExactly_endText.plus true [('-', '-')]).literal '-').plus true _)).literal '-')
  refine ⟨regex, compiled, fun podName => (matching podName).trans ?_⟩
  simp only [dash_suffix_iff, run_to_end_iff]
  constructor
  · rintro ⟨_, rfl, hash, _, split, nonempty, classed, suffix, rfl, rest⟩
    refine ⟨⟨hash⟩, ⟨suffix⟩, String.ext ?_, (segment_iff ⟨hash⟩).mp ⟨nonempty, classed⟩,
      (segment_iff ⟨suffix⟩).mp rest⟩
    simp [String.data_append, split]
  · rintro ⟨hash, suffix, rfl, hashSegment, suffixSegment⟩
    obtain ⟨nonempty, classed⟩ := (segment_iff hash).mpr hashSegment
    refine ⟨hash ++ "-" ++ suffix, String.ext (by simp [String.data_append]), hash.data,
      '-' :: suffix.data, append_dash_data hash suffix, nonempty, classed, suffix.data, rfl,
      (segment_iff suffix).mpr suffixSegment⟩

theorem ordinalPattern_matches (name : String) :
    ∃ regex, compile (ordinalPattern name) = .ok regex ∧
      ∀ podName : String, matchString regex podName = true ↔
        ∃ ordinal, podName = name ++ "-" ++ ordinal ∧ Ordinal ordinal := by
  obtain ⟨regex, compiled, matching⟩ := anchored_quoteMeta name (by rfl) parseSeq_ordinalTail
    ((endsExactly_endText.plus false [('0', '9')]).capture.literal '-')
  refine ⟨regex, compiled, fun podName => (matching podName).trans ?_⟩
  simp only [dash_suffix_iff, run_to_end_iff, classMatches_digit, Ordinal]

theorem exactPattern_matches (name : String) :
    ∃ regex, compile (exactPattern name) = .ok regex ∧
      ∀ podName : String, matchString regex podName = true ↔ podName = name := by
  obtain ⟨regex, compiled, matching⟩ := anchored_quoteMeta name (by rfl) parseSeq_endText
    endsExactly_endText
  refine ⟨regex, compiled, fun podName => (matching podName).trans ?_⟩
  simp [String.ext_iff]

/-! ## Every Resource's pattern -/

/-- Every `PodRegexp` that `GetResources` builds compiles, so `MustCompile`
never panics, and matches exactly the pod names the spec gives its workload. -/
theorem getResources_podRegexp (api : PlatformAPI) (schedule : List ResourceTask) :
    ∀ resource ∈ (getResources api schedule).resources, ∃ regex,
      compile resource.podRegexp = .ok regex ∧
        ∀ podName, matchString regex podName = true ↔
          PodNameOf resource.kind resource.name podName := by
  intro resource member
  rw [getResources, foldl_run_resources, ResourcesState.initial, List.nil_append] at member
  obtain ⟨task, -, built⟩ := List.mem_flatMap.mp member
  obtain ⟨item, -, made⟩ := List.mem_filterMap.mp built
  cases task with
  | replicationControllers =>
      cases made
      simp only [controllerResource, PodNameOf, String.reduceEq, ↓reduceIte, or_self]
      exact singleSegmentPattern_matches item.meta.name
  | pods =>
      simp only [ResourceTask.body] at made
      split at made
      · cases made
      · cases made
        simp only [orphanPodResource, PodNameOf, ↓reduceIte]
        exact exactPattern_matches item.meta.name
  | deployments =>
      cases made
      simp only [controllerResource, PodNameOf, String.reduceEq, ↓reduceIte, true_or]
      exact doubleSegmentPattern_matches item.meta.name
  | statefulSets =>
      cases made
      simp only [statefulSetResource, PodNameOf, String.reduceEq, ↓reduceIte]
      exact ordinalPattern_matches item.meta.name
  | daemonSets =>
      cases made
      simp only [daemonSetResource, PodNameOf, String.reduceEq, ↓reduceIte, or_self]
      exact singleSegmentPattern_matches item.meta.name
  | replicaSets =>
      simp only [ResourceTask.body] at made
      split at made
      · cases made
      · cases made
        simp only [controllerResource, PodNameOf, String.reduceEq, ↓reduceIte, or_self]
        exact singleSegmentPattern_matches item.meta.name
  | cronJobs =>
      cases made
      simp only [cronJobResource, PodNameOf, String.reduceEq, ↓reduceIte, or_true]
      exact doubleSegmentPattern_matches item.meta.name
  | limitRanges => cases made

theorem getResources_podRegexp_listed :
    ∃ regex, compile (singleSegmentPattern "web") = .ok regex ∧
      ∀ podName, matchString regex podName = true ↔
        PodNameOf "ReplicationController" "web" podName :=
  getResources_podRegexp listedPlatform ResourceTask.all
    (controllerResource "ReplicationController" singleSegmentPattern
      ⟨⟨"web", "shop", [], []⟩, some 1, ⟨[], []⟩, 1, 1, 1⟩)
    (by decide)

/-! ## Which workload a pod name belongs to -/

/-- The pattern `GetResources` gives a Resource of `kind`. -/
def podPatternOf (kind : String) : String → String :=
  if kind = "OrphanPod" then exactPattern
  else if kind = "StatefulSet" then ordinalPattern
  else if kind = "Deployment" ∨ kind = "CronJob" then doubleSegmentPattern
  else singleSegmentPattern

/-- Every Resource carries the pattern of its kind, built from its name. -/
theorem getResources_podPattern (api : PlatformAPI) (schedule : List ResourceTask) :
    ∀ resource ∈ (getResources api schedule).resources,
      resource.podRegexp = podPatternOf resource.kind resource.name := by
  intro resource member
  rw [getResources, foldl_run_resources, ResourcesState.initial, List.nil_append] at member
  obtain ⟨task, -, built⟩ := List.mem_flatMap.mp member
  obtain ⟨item, -, made⟩ := List.mem_filterMap.mp built
  cases task with
  | pods | replicaSets =>
      simp only [ResourceTask.body] at made
      split at made
      · cases made
      · cases made
        rfl
  | limitRanges => cases made
  | _ =>
      cases made
      rfl

/-- A name followed by a dash and a dash-free suffix is recovered from the
whole, by the last dash. -/
theorem dash_suffix_unique {name other suffix otherSuffix : String}
    (free : '-' ∉ suffix.data) (otherFree : '-' ∉ otherSuffix.data)
    (equal : name ++ "-" ++ suffix = other ++ "-" ++ otherSuffix) :
    name = other ∧ suffix = otherSuffix := by
  have reversed := congrArg (fun joined : String => joined.data.reverse) equal
  simp only [append_dash_data, List.reverse_append, List.reverse_cons, List.append_assoc,
    List.singleton_append] at reversed
  obtain ⟨suffixes, names⟩ :=
    Strings.separator_split (by simpa using free) (by simpa using otherFree) reversed
  exact ⟨String.ext (List.reverse_injective names), String.ext (List.reverse_injective suffixes)⟩

theorem Ordinal.dash_free {ordinal : String} (digits : Ordinal ordinal) : '-' ∉ ordinal.data :=
  fun dash => absurd (digits.2 '-' dash) (by decide)

/-- Two names whose patterns, from one builder, match one pod name are equal
when the pod names the builder's patterns match fix the name. -/
theorem name_eq_of_matches {pattern : String → String} {shape : String → String → Prop}
    (spec : ∀ name, ∃ regex, compile (pattern name) = .ok regex ∧
      ∀ podName, matchString regex podName = true ↔ shape name podName)
    (fixes : ∀ {name other podName}, shape name podName → shape other podName → name = other)
    {name other podName : String} {regex otherRegex : Regex}
    (compiled : compile (pattern name) = .ok regex)
    (otherCompiled : compile (pattern other) = .ok otherRegex)
    (matching : matchString regex podName = true)
    (otherMatching : matchString otherRegex podName = true) : name = other := by
  obtain ⟨found, foundCompiled, foundMatches⟩ := spec name
  obtain ⟨otherFound, otherFoundCompiled, otherFoundMatches⟩ := spec other
  cases compiled.symm.trans foundCompiled
  cases otherCompiled.symm.trans otherFoundCompiled
  exact fixes ((foundMatches podName).mp matching) ((otherFoundMatches podName).mp otherMatching)

/-- Patterns of one kind that match one pod name come from one workload name. -/
theorem podPattern_name_unique (kind : String) {name other podName : String}
    {regex otherRegex : Regex} (compiled : compile (podPatternOf kind name) = .ok regex)
    (otherCompiled : compile (podPatternOf kind other) = .ok otherRegex)
    (matching : matchString regex podName = true)
    (otherMatching : matchString otherRegex podName = true) : name = other := by
  unfold podPatternOf at compiled otherCompiled
  split_ifs at compiled otherCompiled
  · exact name_eq_of_matches exactPattern_matches (fun same otherSame => same.symm.trans otherSame)
      compiled otherCompiled matching otherMatching
  · exact name_eq_of_matches ordinalPattern_matches
      (fun ⟨_, same, ordinal⟩ ⟨_, otherSame, otherOrdinal⟩ =>
        (dash_suffix_unique ordinal.dash_free otherOrdinal.dash_free (same.symm.trans otherSame)).1)
      compiled otherCompiled matching otherMatching
  · exact name_eq_of_matches doubleSegmentPattern_matches
      (fun ⟨_, _, same, hash, suffix⟩ ⟨_, _, otherSame, otherHash, otherSuffix⟩ =>
        (dash_suffix_unique hash.2 otherHash.2
          (dash_suffix_unique suffix.2 otherSuffix.2 (same.symm.trans otherSame)).1).1)
      compiled otherCompiled matching otherMatching
  · exact name_eq_of_matches singleSegmentPattern_matches
      (fun ⟨_, same, suffix⟩ ⟨_, otherSame, otherSuffix⟩ =>
        (dash_suffix_unique suffix.2 otherSuffix.2 (same.symm.trans otherSame)).1)
      compiled otherCompiled matching otherMatching

end MagalixAgent.Kuber
