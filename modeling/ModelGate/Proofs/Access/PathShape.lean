import Mathlib
import ModelGate.Access.Path

/-!
# The shape of model paths

A path names a model when it is `llm/`, the name, and then nothing or a slash with anything behind
it, after at most one leading slash.  `modelName` reads exactly these paths: it gives the name as it
stands, and tells the paths of that shape whose name is empty from all others.
-/

namespace ModelGate.Access

/-- The path is `llm/` and a segment, which ends with the path or at a slash; one slash may come
first. -/
def HasSegment (path segment : String) : Prop :=
  '/' ∉ segment.toList ∧
    ∃ lead tail : String, (lead = "" ∨ lead = "/") ∧ (tail = "" ∨ ∃ rest, tail = "/" ++ rest) ∧
      path = lead ++ "llm/" ++ segment ++ tail

theorem HasSegment.ne_empty {path segment : String} (h : HasSegment path segment) : path ≠ "" := by
  obtain ⟨-, lead, tail, -, -, hpath⟩ := h
  intro hempty
  have hlength := congrArg String.length (hempty.symm.trans hpath)
  simp only [String.length_append] at hlength
  have hllm : "llm/".length = 4 := by decide
  have hzero : "".length = 0 := by decide
  omega

/-- The path is of the shape `/llm/{name}`, with a name. -/
def NamesModel (path name : String) : Prop :=
  name ≠ "" ∧ HasSegment path name

/-- What may stand behind a segment: nothing, or a slash and anything. -/
def EndsSegment (tail : List Char) : Prop :=
  tail = [] ∨ ∃ rest, tail = '/' :: rest

/-- The characters of a path without its leading slash, cut at the segment behind `llm`. -/
def SegmentCut (cs segment : List Char) : Prop :=
  '/' ∉ segment ∧ ∃ tail, EndsSegment tail ∧ cs = ['l', 'l', 'm', '/'] ++ segment ++ tail

theorem inSegment_eq_true_iff (c : Char) : inSegment c = true ↔ c ≠ '/' := by
  simp [inSegment]

/-- A run of characters other than slashes that ends properly is what `takeWhile` takes. -/
theorem takeWhile_inSegment_append {segment tail : List Char} (hseg : '/' ∉ segment)
    (htail : EndsSegment tail) : (segment ++ tail).takeWhile inSegment = segment := by
  have hall : ∀ c ∈ segment, inSegment c = true := by
    intro c hc
    rw [inSegment_eq_true_iff]
    rintro rfl
    exact hseg hc
  rw [List.takeWhile_append_of_pos hall]
  rcases htail with rfl | ⟨rest, rfl⟩
  · simp
  · simp [inSegment]

theorem dropWhile_inSegment_append {segment tail : List Char} (hseg : '/' ∉ segment)
    (htail : EndsSegment tail) : (segment ++ tail).dropWhile inSegment = tail := by
  have hcut := List.takeWhile_append_dropWhile (p := inSegment) (l := segment ++ tail)
  rw [takeWhile_inSegment_append hseg htail] at hcut
  exact List.append_cancel_left hcut

theorem slash_notMem_takeWhile (cs : List Char) : '/' ∉ cs.takeWhile inSegment := by
  intro hmem
  have := List.mem_takeWhile_imp hmem
  simp [inSegment] at this

theorem endsSegment_dropWhile (cs : List Char) : EndsSegment (cs.dropWhile inSegment) := by
  have hhead := List.head?_dropWhile_not inSegment cs
  cases hdrop : cs.dropWhile inSegment with
  | nil => exact Or.inl rfl
  | cons c rest =>
      rw [hdrop] at hhead
      have hc : c = '/' := by simpa [inSegment] using hhead
      exact Or.inr ⟨rest, by rw [hc]⟩

/-- The first segment is `llm` and the second one is read exactly when the text is cut there. -/
theorem secondSegment?_eq_some_iff (cs segment : List Char) :
    (cs.takeWhile inSegment = ['l', 'l', 'm'] ∧ secondSegment? cs = some segment) ↔
      SegmentCut cs segment := by
  constructor
  · rintro ⟨hfirst, hsecond⟩
    have hsplit := List.takeWhile_append_dropWhile (p := inSegment) (l := cs)
    rw [hfirst] at hsplit
    unfold secondSegment? at hsecond
    rcases endsSegment_dropWhile cs with hnil | ⟨rest, hrest⟩
    · simp [hnil] at hsecond
    · rw [hrest] at hsecond hsplit
      have hseg : rest.takeWhile inSegment = segment := by simpa using hsecond
      subst hseg
      refine ⟨slash_notMem_takeWhile rest, rest.dropWhile inSegment, endsSegment_dropWhile rest, ?_⟩
      rw [← hsplit]
      simp [List.takeWhile_append_dropWhile]
  · rintro ⟨hseg, tail, htail, rfl⟩
    have hllm : '/' ∉ ['l', 'l', 'm'] := by decide
    have hrest : EndsSegment ('/' :: (segment ++ tail)) := Or.inr ⟨_, rfl⟩
    -- Cut before its slash, the text is a first segment and an end of it.
    have hshape : ['l', 'l', 'm', '/'] ++ segment ++ tail =
        ['l', 'l', 'm'] ++ '/' :: (segment ++ tail) := by simp
    rw [hshape]
    refine ⟨takeWhile_inSegment_append hllm hrest, ?_⟩
    unfold secondSegment?
    rw [dropWhile_inSegment_append hllm hrest]
    simp [takeWhile_inSegment_append hseg htail]

/-- A leading slash makes no difference to the shape, and `relative` removes it. -/
theorem hasSegment_iff (path segment : String) :
    HasSegment path segment ↔ SegmentCut (relative path.toList) segment.toList := by
  constructor
  · rintro ⟨hseg, lead, tail, hlead, htail, rfl⟩
    refine ⟨hseg, tail.toList, ?_, ?_⟩
    · rcases htail with rfl | ⟨rest, rfl⟩
      · exact Or.inl rfl
      · exact Or.inr ⟨rest.toList, by simp [String.toList_append]⟩
    · rcases hlead with rfl | rfl <;> simp [String.toList_append, relative]
  · rintro ⟨hseg, tail, htail, hcut⟩
    -- The lead is the slash that the path begins with, if it does.
    have hpath : ∃ lead : String, (lead = "" ∨ lead = "/") ∧
        path.toList = lead.toList ++ relative path.toList := by
      cases hlist : path.toList with
      | nil => exact ⟨"", Or.inl rfl, rfl⟩
      | cons c rest =>
          by_cases hc : c = '/'
          · subst hc
            exact ⟨"/", Or.inr rfl, by simp [relative]⟩
          · refine ⟨"", Or.inl rfl, ?_⟩
            simp [relative, hc]
    obtain ⟨lead, hlead, hlist⟩ := hpath
    refine ⟨hseg, lead, String.ofList tail, hlead, ?_, ?_⟩
    · rcases htail with rfl | ⟨rest, rfl⟩
      · exact Or.inl rfl
      · refine Or.inr ⟨String.ofList rest, ?_⟩
        rw [← String.toList_inj]
        simp [String.toList_append]
    · rw [← String.toList_inj, hlist, hcut]
      simp [String.toList_append]

/-- What `modelName` makes of the second segment. -/
def nameOfSegment : List Char → Except PathError String
  | [] => .error .missingName
  | segment => .ok (String.ofList segment)

theorem modelName_of_segmentCut {path : String} {segment : List Char}
    (h : SegmentCut (relative path.toList) segment) :
    modelName path = nameOfSegment segment := by
  obtain ⟨hfirst, hsecond⟩ := (secondSegment?_eq_some_iff _ _).2 h
  unfold modelName
  simp only [hfirst, if_true, hsecond]
  cases segment with
  | nil => rfl
  | cons c rest => rfl

theorem modelName_of_not_segmentCut {path : String}
    (h : ∀ segment, ¬ SegmentCut (relative path.toList) segment) :
    modelName path = .error .malformed := by
  unfold modelName
  by_cases hfirst : (relative path.toList).takeWhile inSegment = ['l', 'l', 'm']
  · simp only [hfirst, if_true]
    cases hsecond : secondSegment? (relative path.toList) with
    | none => rfl
    | some segment =>
        exact absurd ((secondSegment?_eq_some_iff _ _).1 ⟨hfirst, hsecond⟩) (h segment)
  · simp [hfirst]

/-- Reading a path of the shape gives its name, or says that the name is missing. -/
theorem modelName_of_hasSegment {path segment : String} (h : HasSegment path segment) :
    modelName path = if segment = "" then .error .missingName else .ok segment := by
  rw [modelName_of_segmentCut ((hasSegment_iff path segment).1 h)]
  cases hlist : segment.toList with
  | nil =>
      have : segment = "" := by rw [← String.toList_inj, hlist]; rfl
      simp [this, nameOfSegment]
  | cons c rest =>
      have hne : segment ≠ "" := by
        rintro rfl
        simp at hlist
      rw [if_neg hne, nameOfSegment, ← hlist, String.ofList_toList]
      simp

theorem modelName_of_no_segment {path : String} (h : ∀ segment, ¬ HasSegment path segment) :
    modelName path = .error .malformed := by
  apply modelName_of_not_segmentCut
  intro segment hcut
  apply h (String.ofList segment)
  rw [hasSegment_iff, String.toList_ofList]
  exact hcut

/-- A path names a model exactly when its name can be read. -/
theorem modelName_eq_ok_iff (path name : String) :
    modelName path = .ok name ↔ NamesModel path name := by
  by_cases hex : ∃ segment, HasSegment path segment
  · obtain ⟨segment, hseg⟩ := hex
    have hread := modelName_of_hasSegment hseg
    constructor
    · intro hok
      by_cases hempty : segment = ""
      · simp [hread, hempty] at hok
      · have : segment = name := by simpa [hread, hempty] using hok
        exact this ▸ ⟨hempty, hseg⟩
    · rintro ⟨hne, hname⟩
      rw [modelName_of_hasSegment hname, if_neg hne]
  · rw [modelName_of_no_segment (not_exists.1 hex)]
    constructor
    · intro hok
      cases hok
    · rintro ⟨-, hname⟩
      exact absurd ⟨name, hname⟩ hex

/-- The name is missing exactly when the path has the shape with nothing in its place. -/
theorem modelName_eq_missingName_iff (path : String) :
    modelName path = .error .missingName ↔ HasSegment path "" := by
  constructor
  · intro hmissing
    by_contra hnot
    by_cases hex : ∃ segment, HasSegment path segment
    · obtain ⟨segment, hseg⟩ := hex
      rw [modelName_of_hasSegment hseg] at hmissing
      by_cases hempty : segment = ""
      · exact hnot (hempty ▸ hseg)
      · simp [hempty] at hmissing
    · rw [modelName_of_no_segment (not_exists.1 hex)] at hmissing
      cases hmissing
  · intro hseg
    rw [modelName_of_hasSegment hseg, if_pos rfl]

/-- A path is malformed exactly when it is not of the shape, whatever the name. -/
theorem modelName_eq_malformed_iff (path : String) :
    modelName path = .error .malformed ↔ ∀ segment, ¬ HasSegment path segment := by
  constructor
  · intro hbad segment hseg
    rw [modelName_of_hasSegment hseg] at hbad
    by_cases hempty : segment = "" <;> simp [hempty] at hbad
  · exact modelName_of_no_segment

/-! ## The grammar -/

/-- A path has one segment behind `llm/` at most. -/
theorem HasSegment.unique {path segment segment' : String} (h : HasSegment path segment)
    (h' : HasSegment path segment') : segment = segment' := by
  have hread := modelName_of_hasSegment h
  rw [modelName_of_hasSegment h'] at hread
  split_ifs at hread with hempty' hempty hempty
  · rw [hempty, hempty']
  · exact (Except.ok.inj hread).symm

/-- The path below which a model is served. -/
def pathOf (name : String) : String :=
  "/llm/" ++ name

theorem hasSegment_pathOf {name tail : String} (hslash : '/' ∉ name.toList)
    (htail : tail = "" ∨ ∃ rest, tail = "/" ++ rest) : HasSegment (pathOf name ++ tail) name := by
  refine ⟨hslash, "/", tail, Or.inr rfl, htail, ?_⟩
  rfl

/-- What paths are read as: every path is of exactly one of three kinds, and a name is the segment as
it stands in the path. -/
structure ReadsPaths : Prop where
  ok_iff : ∀ path name, modelName path = .ok name ↔ name ≠ "" ∧ HasSegment path name
  missing_iff : ∀ path, modelName path = .error .missingName ↔ HasSegment path ""
  malformed_iff : ∀ path, modelName path = .error .malformed ↔ ∀ segment, ¬ HasSegment path segment
  /-- No path can be cut in two ways. -/
  cut_once : ∀ {path segment segment'}, HasSegment path segment → HasSegment path segment' →
    segment = segment'
  read_back : ∀ {name}, name ≠ "" → '/' ∉ name.toList →
    modelName (pathOf name) = .ok name ∧ ∀ rest, modelName (pathOf name ++ "/" ++ rest) = .ok name

/-- Paths are read by the grammar, and the path of a model, or one below it, is read as its name. -/
theorem paths_follow_grammar : ReadsPaths where
  ok_iff := modelName_eq_ok_iff
  missing_iff := modelName_eq_missingName_iff
  malformed_iff := modelName_eq_malformed_iff
  cut_once := HasSegment.unique
  read_back := by
    intro name hne hslash
    have hbare := hasSegment_pathOf hslash (Or.inl (rfl : "" = ""))
    rw [String.append_empty] at hbare
    refine ⟨(modelName_eq_ok_iff _ _).2 ⟨hne, hbare⟩, fun rest => ?_⟩
    have hbelow := hasSegment_pathOf hslash (Or.inr ⟨rest, rfl⟩)
    rw [← String.append_assoc] at hbelow
    exact (modelName_eq_ok_iff _ _).2 ⟨hne, hbelow⟩

/-- A longer first segment is no `llm`, and only one slash may come before it. -/
example : modelName "/llmx/opt" = .error .malformed ∧ modelName "//llm/opt" = .error .malformed ∧
    modelName "llm//opt" = .error .missingName := by decide

end ModelGate.Access
