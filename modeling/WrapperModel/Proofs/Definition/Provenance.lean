import Mathlib.Data.List.Basic
import WrapperModel.Definition.Provenance
import WrapperModel.Proofs.Text.Replace

/-!
# `WrapperModel.Proofs.Definition.Provenance`: filling in an address

`filled` is what an address template stands for: it is read once from left to right, and each
mark in it gives way to the revision or to the name of the file. `referenceUrl` fills in the
revision first and then searches what came out for the mark of the file, so the two agree as long
as the revision makes no such mark, neither on its own nor together with the text around it.

* `toList_referenceUrl`: the name of the file fills the gaps that are left, and is not searched.
* `referenceUrl_eq_filled_iff`: for one template, both agree exactly if the gaps are those of the
  template.
* `keepsFileMarks_of_isInert`: an inert revision makes no gaps.
* `isInert_iff_of_no_brace`: a revision without braces is inert if it is no part of the mark.
* `filled_iff_isInert`: both agree in every template exactly for inert revisions.
-/

set_option autoImplicit false

namespace WrapperModel.Definition

open WrapperModel.Text

/-! ### Reading a template once -/

/-- What follows the brace in the mark for the revision. `cutAt` takes the first character of a
pattern apart from the rest. -/
def referenceMarkEnd : List Char := ['r', 'e', 'f', 'e', 'r', 'e', 'n', 'c', 'e', '\x7d']

/-- What follows the brace in the mark for the file. `cutAt` is given the brace and the rest of a
mark apart, since only the brace can begin one. -/
def fileMarkEnd : List Char := ['f', 'i', 'l', 'e', '\x7d']

/-- The characters of `referenceMark` are a brace and `referenceMarkEnd`. -/
theorem toList_referenceMark : referenceMark.toList = '\x7b' :: referenceMarkEnd := rfl

/-- The characters of `fileMark` are a brace and `fileMarkEnd`. -/
theorem toList_fileMark : fileMark.toList = '\x7b' :: fileMarkEnd := rfl

/-- A part of a template: a character that stands for itself, or a mark. `templateParts` cuts a
template into them. -/
inductive TemplatePart where
  | char (c : Char)
  | reference
  | file
  deriving Repr, DecidableEq

/-- The parts of a template, read once from left to right. A brace with which no mark begins is a
character like any other, and so is the brace in front of a mark. -/
def templateParts : List Char → List TemplatePart
  | [] => []
  | c :: rest =>
    if c = '\x7b' && referenceMarkEnd.isPrefixOf rest then
      .reference :: templateParts (rest.drop referenceMarkEnd.length)
    else if c = '\x7b' && fileMarkEnd.isPrefixOf rest then
      .file :: templateParts (rest.drop fileMarkEnd.length)
    else .char c :: templateParts rest
  termination_by cs => cs.length
  decreasing_by
    · simp only [List.length_cons, List.length_drop]; omega
    · simp only [List.length_cons, List.length_drop]; omega
    · simp

/-- What stands in the place of a part when the template is filled in: the character itself, the
revision or the name of the file. -/
def TemplatePart.fill (reference file : List Char) : TemplatePart → List Char
  | .char c => [c]
  | .reference => reference
  | .file => file

/-- The template with every mark filled in, and with nothing else changed. Nothing that was put in
is searched, so this is what a template stands for. It is the reference for `referenceUrl`. -/
def filled (template reference file : String) : String :=
  String.ofList
    ((templateParts template.toList).flatMap (TemplatePart.fill reference.toList file.toList))

/-- The test for a mark in `templateParts` and `cutAt` says that a brace stands here and the rest of
the mark behind it. -/
theorem exists_of_mark {c : Char} {markEnd rest : List Char}
    (h : (c = '\x7b' && markEnd.isPrefixOf rest) = true) :
    c = '\x7b' ∧ ∃ behind, rest = markEnd ++ behind := by
  rw [Bool.and_eq_true, decide_eq_true_eq, List.isPrefixOf_iff_prefix] at h
  obtain ⟨hc, behind, hrest⟩ := h
  exact ⟨hc, behind, hrest.symm⟩

/-- The mark for the revision in front of a text is read as such. -/
theorem templateParts_referenceMark (rest : List Char) :
    templateParts ('\x7b' :: (referenceMarkEnd ++ rest)) = .reference :: templateParts rest := by
  have hbegins : referenceMarkEnd.isPrefixOf (referenceMarkEnd ++ rest) = true :=
    List.isPrefixOf_iff_prefix.2 (List.prefix_append _ rest)
  rw [templateParts, hbegins, List.drop_left]
  rfl

/-- In a text without braces `templateParts` finds no mark, so it stands for itself. -/
theorem templateParts_of_no_brace {cs : List Char} (h : '\x7b' ∉ cs) :
    templateParts cs = cs.map .char := by
  induction cs with
  | nil => rw [templateParts]; rfl
  | cons c rest ih =>
    obtain ⟨hc, hrest⟩ := not_or.1 (mt List.mem_cons.2 h)
    have hne : decide (c = '\x7b') = false := decide_eq_false fun heq => hc heq.symm
    rw [templateParts, hne, Bool.false_and, Bool.false_and, ih hrest]
    rfl

/-! ### The two passes -/

/-- The template with the revision filled in, and with the marks of the file left as they are. This
is what the second pass of `referenceUrl` searches. -/
def withReference (template reference : List Char) : List Char :=
  (templateParts template).flatMap (TemplatePart.fill reference ('\x7b' :: fileMarkEnd))

/-- What a part becomes where the revision is filled in and the file leaves a gap. A gap is `none`,
a character is itself. -/
def TemplatePart.gaps (reference : List Char) : TemplatePart → List (Option Char)
  | .char c => [some c]
  | .reference => reference.map some
  | .file => [none]

/-- The first pass gives `withReference`: replacing the mark of the revision leaves the marks of the
file as they are. Neither mark begins inside of the other, so both ways of reading cut the template
alike. -/
theorem toList_replaceAll_referenceMark (template reference : String) :
    (replaceAll referenceMark reference template).toList =
      withReference template.toList reference.toList := by
  rw [toList_replaceAll toList_referenceMark, withReference]
  generalize template.toList = cs
  -- The template is read part by part, in step with the search for the mark.
  fun_induction templateParts cs with
  | case1 => rw [cutAt]; rfl
  | case2 c rest hmark ih =>
    obtain ⟨rfl, behind, rfl⟩ := exists_of_mark hmark
    rw [List.drop_left] at ih
    rw [List.drop_left, cutAt_pattern_append, List.flatMap_cons, ← ih]
    rfl
  | case3 c rest hnot hmark ih =>
    obtain ⟨rfl, behind, rfl⟩ := exists_of_mark hmark
    rw [List.drop_left] at ih
    -- Nowhere in the mark of the file begins that of the revision.
    have hkept : cutAt '\x7b' referenceMarkEnd ('\x7b' :: (fileMarkEnd ++ behind)) =
        ('\x7b' :: fileMarkEnd).map some ++ cutAt '\x7b' referenceMarkEnd behind := by
      simp [cutAt, fileMarkEnd, referenceMarkEnd]
    rw [List.drop_left, hkept, List.flatMap_cons, ← ih]
    rfl
  | case4 c rest hnot hnot' ih =>
    have hkept : cutAt '\x7b' referenceMarkEnd (c :: rest) =
        some c :: cutAt '\x7b' referenceMarkEnd rest := by
      rw [cutAt, if_neg hnot]
    rw [hkept, List.flatMap_cons, ← ih]
    rfl

/-- The name of the file fills the gaps that its mark leaves in the template with the revision
filled in. So the name itself is not searched. -/
theorem toList_referenceUrl (template reference file : String) :
    (referenceUrl template reference file).toList =
      fillGaps file.toList
        (cutAt '\x7b' fileMarkEnd (withReference template.toList reference.toList)) := by
  rw [referenceUrl, toList_replaceAll toList_fileMark, toList_replaceAll_referenceMark]

/-- `filled` fills the gaps that the template has for the file. Beside `toList_referenceUrl` it
shows that the two differ in the gaps alone. -/
theorem toList_filled (template reference file : String) :
    (filled template reference file).toList =
      fillGaps file.toList
        ((templateParts template.toList).flatMap (TemplatePart.gaps reference.toList)) := by
  rw [filled, String.toList_ofList, fillGaps, List.flatMap_assoc]
  congr 1
  funext part
  cases part with
  | char c => rfl
  | reference => simp [TemplatePart.fill, TemplatePart.gaps, List.flatMap_map]
  | file => simp [TemplatePart.fill, TemplatePart.gaps]

/-- In the template with the revision filled in, the mark of the file occurs where it stands in the
template and nowhere else. It is what `referenceUrl` needs of one template. -/
def KeepsFileMarks (template reference : List Char) : Prop :=
  cutAt '\x7b' fileMarkEnd (withReference template reference) =
    (templateParts template).flatMap (TemplatePart.gaps reference)

/-- For one template and revision the two passes agree with `filled`, whatever the file is, exactly
if the revision makes no mark of the file there. -/
theorem referenceUrl_eq_filled_iff (template reference : String) :
    (∀ file, referenceUrl template reference file = filled template reference file) ↔
      KeepsFileMarks template.toList reference.toList := by
  constructor
  · intro h
    refine eq_of_forall_fillGaps_eq fun replacement => ?_
    have hfile := congrArg String.toList (h (String.ofList replacement))
    rwa [toList_referenceUrl, toList_filled, String.toList_ofList] at hfile
  · intro hkeeps file
    rw [← String.toList_inj, toList_referenceUrl, toList_filled, hkeeps]

/-! ### Inert revisions -/

/-- Between a beginning and an end of the mark of the file, the revision makes no such mark. The
beginning and the end may be empty, so it makes none by itself, and stand for the text of a template
around it. -/
def IsInert (reference : List Char) : Prop :=
  ∀ before behind, before <+: ['\x7b', 'f', 'i', 'l', 'e'] → behind <:+ fileMarkEnd →
    ¬ '\x7b' :: fileMarkEnd <:+: before ++ (reference ++ behind)

/-- What stands in front of an end of the mark is a beginning of it. The end must not be empty,
since the whole mark is no beginning in the sense of `IsInert`. -/
theorem prefix_of_append_eq_fileMark {before behind : List Char} (hne : behind ≠ [])
    (h : before ++ behind = '\x7b' :: fileMarkEnd) : before <+: ['\x7b', 'f', 'i', 'l', 'e'] := by
  have hlast := congrArg List.dropLast h
  rw [List.dropLast_append_of_ne_nil hne] at hlast
  exact ⟨behind.dropLast, hlast⟩

/-- What stands behind a beginning of the mark is an end of it, if the beginning is not empty. Only
the whole mark begins with a brace. -/
theorem suffix_of_append_eq_fileMark {before behind : List Char} (hne : before ≠ [])
    (h : before ++ behind = '\x7b' :: fileMarkEnd) : behind <:+ fileMarkEnd := by
  obtain ⟨c, rest, rfl⟩ := List.exists_cons_of_ne_nil hne
  exact ⟨rest, (List.cons.inj h).2⟩

/-- Where an inert revision is filled in, no end of the mark of the file comes up that was not there
before. The induction is on the parts of the template. -/
theorem IsInert.prefix_of_prefix_withReference {reference cs markEnd : List Char}
    (h : IsInert reference) (hend : markEnd <:+ fileMarkEnd)
    (hbegins : markEnd <+: withReference cs reference) : markEnd <+: cs := by
  unfold withReference at hbegins
  fun_induction templateParts cs generalizing markEnd with
  | case1 => exact hbegins
  | case2 c rest hmark ih =>
    by_cases hne : markEnd = []
    · rw [hne]
      exact List.nil_prefix
    · obtain ⟨before, hbefore⟩ := hend
      have hwhole : '\x7b' :: before ++ markEnd = '\x7b' :: fileMarkEnd := by
        rw [List.cons_append, hbefore]
      have hbegin := prefix_of_append_eq_fileMark hne hwhole
      -- The end stands in the revision, or the revision stands in the end.
      rcases List.prefix_or_prefix_of_prefix hbegins (List.prefix_append reference _) with
        ⟨more, rfl⟩ | ⟨more, rfl⟩
      · refine absurd ?_ (h _ [] hbegin List.nil_suffix)
        exact ⟨[], more, by rw [← hwhole]; simp⟩
      · have hmore := (List.suffix_append reference more).trans ⟨before, hbefore⟩
        refine absurd ?_ (h _ more hbegin hmore)
        exact ⟨[], [], by rw [← hwhole]; simp⟩
  | case3 c rest hnot hmark ih =>
    cases markEnd with
    | nil => exact List.nil_prefix
    | cons d more =>
      -- A brace stands here, and no end of the mark has an opening one.
      obtain rfl : d = '\x7b' := (List.cons_prefix_cons.1 hbegins).1
      exact absurd (hend.subset List.mem_cons_self) (by decide)
  | case4 c rest hnot hnot' ih =>
    cases markEnd with
    | nil => exact List.nil_prefix
    | cons d more =>
      obtain ⟨rfl, hmore⟩ := List.cons_prefix_cons.1 hbegins
      exact List.cons_prefix_cons.2 ⟨rfl, ih ((List.suffix_cons d more).trans hend) hmore⟩

/-- An inert revision is kept by `cutAt`, whatever stands behind it: no mark begins in it, neither
within nor across its end. -/
theorem IsInert.cutAt_append {reference : List Char} (h : IsInert reference) (rest : List Char) :
    cutAt '\x7b' fileMarkEnd (reference ++ rest) =
      reference.map some ++ cutAt '\x7b' fileMarkEnd rest := by
  refine cutAt_append_of_free rest ?_
  rintro behind hne ⟨front, rfl⟩ hbegins
  -- A mark that begins in the revision is a part of it, or goes on with an end of the mark.
  rcases List.prefix_or_prefix_of_prefix hbegins (List.prefix_append behind rest) with
    hinside | ⟨more, hmore⟩
  · refine h [] [] List.nil_prefix List.nil_suffix ?_
    rw [List.nil_append, List.append_nil]
    exact hinside.isInfix.trans (List.suffix_append front behind).isInfix
  · refine h [] more List.nil_prefix (suffix_of_append_eq_fileMark hne hmore) ?_
    exact ⟨front, [], by rw [← hmore]; simp⟩

/-- An inert revision makes no mark of the file in any template. The induction is on the parts of
the template, of which two need the revision to be inert: the mark of the revision and a
character. -/
theorem keepsFileMarks_of_isInert {reference : List Char} (h : IsInert reference)
    (template : List Char) : KeepsFileMarks template reference := by
  unfold KeepsFileMarks withReference
  fun_induction templateParts template with
  | case1 => rw [List.flatMap_nil, List.flatMap_nil, cutAt]
  | case2 c rest hmark ih =>
    rw [List.flatMap_cons, List.flatMap_cons, ← ih]
    -- The revision stands where its mark stood, and no mark of the file begins or ends in it.
    exact h.cutAt_append _
  | case3 c rest hnot hmark ih =>
    rw [List.flatMap_cons, List.flatMap_cons, ← ih]
    exact cutAt_pattern_append _
  | case4 c rest hnot hnot' ih =>
    rw [List.flatMap_cons, List.flatMap_cons, ← ih]
    refine cutAt_cons_of_not_begins ?_
    -- A mark that begins here would be one of the template.
    rintro hbegins
    obtain ⟨rfl, hend⟩ := List.cons_prefix_cons.1 hbegins
    refine hnot' ?_
    rw [decide_eq_true rfl, Bool.true_and, List.isPrefixOf_iff_prefix]
    exact h.prefix_of_prefix_withReference List.suffix_rfl hend

/-- Between a beginning and an end of the mark of the file, the mark of the revision is read as
such. So there is a template for each way in which `IsInert` can fail. -/
theorem templateParts_between {before behind : List Char}
    (hbefore : before <+: ['\x7b', 'f', 'i', 'l', 'e']) (hbehind : behind <:+ fileMarkEnd) :
    templateParts (before ++ '\x7b' :: (referenceMarkEnd ++ behind)) =
      before.map .char ++ .reference :: behind.map .char := by
  have hfree : '\x7b' ∉ behind := fun hbrace => absurd (hbehind.subset hbrace) (by decide)
  have hrest := templateParts_referenceMark behind
  rw [templateParts_of_no_brace hfree] at hrest
  -- There are six beginnings, and with the brace behind it none of them is a mark.
  simp only [List.prefix_cons_iff, List.prefix_nil] at hbefore
  rcases hbefore with
    rfl | ⟨-, rfl, rfl | ⟨-, rfl, rfl | ⟨-, rfl, rfl | ⟨-, rfl, rfl | ⟨-, rfl, rfl⟩⟩⟩⟩⟩
  · exact hrest
  all_goals
    rw [← hrest]
    simp [templateParts, referenceMarkEnd, fileMarkEnd]

/-- A revision that makes no mark of the file in any template is inert: each way to fail would show
in the template of `templateParts_between`. -/
theorem isInert_of_forall_keepsFileMarks {reference : List Char}
    (h : ∀ template, KeepsFileMarks template reference) : IsInert reference := by
  intro before behind hbefore hbehind hoccurs
  have hkeeps := h (before ++ '\x7b' :: (referenceMarkEnd ++ behind))
  rw [KeepsFileMarks, withReference, templateParts_between hbefore hbehind] at hkeeps
  -- Filled in, this template is the text around the revision with the revision between.
  have hfilled : (before.map TemplatePart.char ++
      TemplatePart.reference :: behind.map TemplatePart.char).flatMap
      (TemplatePart.fill reference ('\x7b' :: fileMarkEnd)) = before ++ (reference ++ behind) := by
    simp [List.flatMap_map, TemplatePart.fill]
  -- The mark that occurs leaves a gap, and the template has none.
  have hgap := none_mem_cutAt hoccurs
  rw [← hfilled, hkeeps] at hgap
  simp [List.flatMap_map, TemplatePart.gaps] at hgap

section NoBrace

variable {reference before begun behind : List Char}

/-- Around a revision without an opening brace, a mark can only begin at the first character, since
that brace comes from the template. -/
theorem prefix_of_infix_of_not_mem (hopen : '\x7b' ∉ reference)
    (hbefore : before <+: ['\x7b', 'f', 'i', 'l', 'e']) (hbehind : behind <:+ fileMarkEnd)
    (hoccurs : '\x7b' :: fileMarkEnd <:+: before ++ (reference ++ behind)) :
    ∃ begun, begun <+: ['f', 'i', 'l', 'e'] ∧ fileMarkEnd <+: begun ++ (reference ++ behind) := by
  have hbehindFree : '\x7b' ∉ behind := fun hbrace => absurd (hbehind.subset hbrace) (by decide)
  -- The only brace that opens is the one in front, if it is there.
  rcases List.prefix_cons_iff.1 hbefore with rfl | ⟨begun, rfl, hbegun⟩
  · have hmem : '\x7b' ∈ [] ++ (reference ++ behind) := hoccurs.subset List.mem_cons_self
    rw [List.nil_append, List.mem_append] at hmem
    exact (hmem.elim hopen hbehindFree).elim
  · have hbegunFree : '\x7b' ∉ begun := fun hbrace => absurd (hbegun.subset hbrace) (by decide)
    have hrestFree : '\x7b' ∉ begun ++ (reference ++ behind) := by
      simp [hopen, hbehindFree, hbegunFree]
    refine ⟨begun, hbegun, ?_⟩
    rcases List.infix_cons_iff.1 hoccurs with hbegins | hinside
    · exact (List.cons_prefix_cons.1 hbegins).2
    · exact absurd (hinside.subset List.mem_cons_self) hrestFree

/-- Around a revision without a closing brace, such a mark can only end at the last character. So
the revision is a part of the word between the braces. -/
theorem infix_of_prefix_of_not_mem (hclose : '\x7d' ∉ reference)
    (hbegun : begun <+: ['f', 'i', 'l', 'e']) (hbehind : behind <:+ fileMarkEnd)
    (hends : fileMarkEnd <+: begun ++ (reference ++ behind)) :
    reference <:+: ['f', 'i', 'l', 'e'] := by
  obtain ⟨more, hmore⟩ := hends
  have hbegunFree : '\x7d' ∉ begun := fun hbrace => absurd (hbegun.subset hbrace) (by decide)
  rcases List.eq_nil_or_concat behind with rfl | ⟨ended, d, rfl⟩
  · have hmem : '\x7d' ∈ begun ++ (reference ++ []) := hmore ▸ by simp [fileMarkEnd]
    simp [hclose, hbegunFree] at hmem
  · obtain ⟨front, hfront⟩ := hbehind
    rw [List.concat_eq_append, ← List.append_assoc] at hfront
    have hword : front ++ ended ++ [d] = ['f', 'i', 'l', 'e'] ++ ['\x7d'] := hfront
    obtain ⟨hended, hd⟩ := List.append_inj' hword rfl
    obtain rfl : d = '\x7d' := List.singleton_inj.1 hd
    -- Cut at the only brace that closes, both sides begin with the same word.
    have hendedFree : '\x7d' ∉ ended := fun hbrace =>
      absurd (hended ▸ List.mem_append_right front hbrace) (by decide)
    have hfree : '\x7d' ∉ begun ++ (reference ++ ended) := by
      simp [hclose, hendedFree, hbegunFree]
    have hwhole : ['f', 'i', 'l', 'e'] ++ '\x7d' :: more =
        (begun ++ (reference ++ ended)) ++ '\x7d' :: [] := by
      simpa [fileMarkEnd] using hmore
    obtain ⟨hsame, -⟩ := (List.append_cons_inj_of_notMem hfree List.not_mem_nil).1 hwhole.symm
    exact ⟨begun, ended, by rw [← hsame, List.append_assoc]⟩

/-- A revision without braces is inert if it is no part of the word in the mark, and only then. This
covers the branches and tags that are used as revisions. -/
theorem isInert_iff_of_no_brace (hopen : '\x7b' ∉ reference) (hclose : '\x7d' ∉ reference) :
    IsInert reference ↔ ¬reference <:+: ['f', 'i', 'l', 'e'] := by
  constructor
  · -- A part of the word is completed to the whole mark by what stands around it.
    rintro h ⟨before, behind, hword⟩
    refine h ('\x7b' :: before) (behind ++ ['\x7d']) ?_ ?_ ⟨[], [], ?_⟩
    · exact ⟨reference ++ behind, by rw [← hword]; simp⟩
    · exact ⟨before ++ reference, by simpa [fileMarkEnd] using congrArg (· ++ ['\x7d']) hword⟩
    · simpa [fileMarkEnd] using congrArg (· ++ ['\x7d']) hword.symm
  · intro hpart before behind hbefore hbehind hoccurs
    obtain ⟨begun, hbegun, hends⟩ := prefix_of_infix_of_not_mem hopen hbefore hbehind hoccurs
    exact hpart (infix_of_prefix_of_not_mem hclose hbegun hbehind hends)

end NoBrace

/-- The revision `master` is inert. -/
example : IsInert "master".toList :=
  (isInert_iff_of_no_brace (by decide) (by decide)).2 (by decide)

/-! ### When the two passes fill a template in -/

/-- Filling in the revision and then the file is filling both in at once, in every template and for
every file, exactly for the revisions that are inert (`IsInert`). In one template it is so exactly
if the revision makes no mark of the file there (`KeepsFileMarks`). In any case the name of the file
stands in the gaps that are left once the revision is filled in, and is not searched for marks. -/
theorem filled_iff_isInert (reference : String) :
    ((∀ template file, referenceUrl template reference file = filled template reference file) ↔
      IsInert reference.toList) ∧
    ∀ template,
      ((∀ file, referenceUrl template reference file = filled template reference file) ↔
        KeepsFileMarks template.toList reference.toList) ∧
      ∀ file, (referenceUrl template reference file).toList =
        fillGaps file.toList
          (cutAt '\x7b' fileMarkEnd (withReference template.toList reference.toList)) := by
  refine ⟨?_, fun template => ⟨referenceUrl_eq_filled_iff template reference,
    toList_referenceUrl template reference⟩⟩
  constructor
  · intro h
    -- All file names at one template show whether the marks are kept there.
    refine isInert_of_forall_keepsFileMarks fun template => ?_
    have hkeeps := (referenceUrl_eq_filled_iff (String.ofList template) reference).1 (h _)
    rwa [String.toList_ofList] at hkeeps
  · intro h template
    exact (referenceUrl_eq_filled_iff template reference).2 (keepsFileMarks_of_isInert h _)

/-- A revision that is the mark of the file is expanded, and so is one that makes the mark together
with the template around it. In both cases `filled` keeps the revision. -/
theorem referenceUrl_ne_filled :
    referenceUrl "\x7breference\x7d/\x7bfile\x7d" "\x7bfile\x7d" "a.yaml" = "a.yaml/a.yaml" ∧
    filled "\x7breference\x7d/\x7bfile\x7d" "\x7bfile\x7d" "a.yaml" = "\x7bfile\x7d/a.yaml" ∧
    referenceUrl "\x7b\x7breference\x7d\x7d" "file" "a.yaml" = "a.yaml" ∧
    filled "\x7b\x7breference\x7d\x7d" "file" "a.yaml" = "\x7bfile\x7d" ∧
    ¬∀ template reference file,
      referenceUrl template reference file = filled template reference file := by
  have hexpanded : referenceUrl "\x7breference\x7d/\x7bfile\x7d" "\x7bfile\x7d" "a.yaml" =
      "a.yaml/a.yaml" := by
    decide +kernel
  have hverbatim : filled "\x7breference\x7d/\x7bfile\x7d" "\x7bfile\x7d" "a.yaml" =
      "\x7bfile\x7d/a.yaml" := by
    decide +kernel
  refine ⟨hexpanded, hverbatim, by decide +kernel, by decide +kernel, fun h => ?_⟩
  have hsame := hexpanded.symm.trans ((h _ _ _).trans hverbatim)
  exact absurd hsame (by decide)

end WrapperModel.Definition
