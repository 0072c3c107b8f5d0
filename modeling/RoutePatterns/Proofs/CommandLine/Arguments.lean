import RoutePatterns.CommandLine.Arguments

/-!
# Reading arguments

The first argument says which verb the others are read for (`ofArguments_name`). A value that is attached to an
option by an equals sign belongs to it, whatever it contains (`item_attached`), and a text with an equals sign is a
name and an expression, cut at the first one (`override?_append`).
-/

namespace RoutePatterns

namespace CommandLine

theorem ofArguments_name (v : Verb) (args : List String) :
    Invocation.ofArguments (v.name :: args) = Invocation.read none v args := by
  cases v <;> rfl

theorem item_of_isValue (shape : Shape) {word : String} (h : isValue word = true) :
    shape.item word = .word word := by
  rw [Shape.item]
  rw [isValue] at h
  split <;> simp_all

theorem item_endOfOptions (shape : Shape) : shape.item "--" = .endOfOptions := rfl

/-! ### A file -/

variable {verb : Verb} {file : String}

theorem place_file (htakes : verb.shape.takesFile = true) (hne : file ≠ "") :
    Draft.place verb {} file = .ok { file := some file } := by
  simp [Draft.place, htakes, hne, setOnce, Except.map]

theorem read_file (htakes : verb.shape.takesFile = true) (hne : file ≠ "") (h : isValue file = true) :
    Draft.read verb {} [file] = .ok { file := some file } := by
  rw [Draft.read, item_of_isValue _ h]
  simp only [place_file htakes hne]
  rfl

/-- After two hyphens, any name can be given. -/
theorem read_endOfOptions (htakes : verb.shape.takesFile = true) (hne : file ≠ "") :
    Draft.read verb {} ["--", file] = .ok { file := some file } := by
  rw [Draft.read, item_endOfOptions]
  simp only [Draft.placeAll, place_file htakes hne]
  rfl

/-! ### Options with attached values -/

/-- An option with a value that is attached to it. -/
def attached (s : Setting) (value : String) : String := "--" ++ s.name ++ "=" ++ value

/-- The value of an option is taken as it stands. -/
theorem item_attached (s : Setting) (value : String) :
    (Verb.shape .compile).item (attached s value) = .setting s value := by
  have htoList : (attached s value).toList = '-' :: '-' :: (s.name.toList ++ '=' :: value.toList) := by
    simp [attached]
  rw [Shape.item, htoList]
  cases s <;> exact congrArg (Item.setting _) String.ofList_toList

/-- Options with attached values are set one after the other. -/
theorem read_attached (d : Draft) (settings : List (Setting × String)) :
    Draft.read .compile d (settings.map fun e => attached e.1 e.2) =
      settings.foldlM (fun d e => d.set e.1 e.2) d := by
  induction settings generalizing d with
  | nil => rfl
  | cons e settings ih =>
    rw [List.map_cons, Draft.read, item_attached, List.foldlM_cons]
    exact bind_congr ih

/-! ### Expressions by name -/

/-- A name with an expression, as it is given. -/
def assignment (e : String × String) : String := e.1 ++ "=" ++ e.2

/-- A text is cut at its first equals sign. -/
theorem override?_assignment {e : String × String} (hne : e.1 ≠ "") (h : '=' ∉ e.1.toList) :
    override? (assignment e) = some e := by
  have htoList : (assignment e).toList = e.1.toList ++ '=' :: e.2.toList := by simp [assignment]
  have hname : ∀ c ∈ e.1.toList, (c != '=') = true := by
    intro c hc
    rw [bne_iff_ne]
    rintro rfl
    exact h hc
  have htake : (e.1.toList ++ '=' :: e.2.toList).takeWhile (· != '=') = e.1.toList := by
    rw [List.takeWhile_append_of_pos hname]
    simp
  have hdrop : (e.1.toList ++ '=' :: e.2.toList).dropWhile (· != '=') = '=' :: e.2.toList := by
    rw [List.dropWhile_append_of_pos hname]
    simp
  simp [override?, htoList, htake, hdrop, hne]

theorem foldlM_override {pairs : List (String × String)} (h : ∀ e ∈ pairs, e.1 ≠ "" ∧ '=' ∉ e.1.toList)
    (d : Draft) :
    (pairs.map fun e => (Setting.override, assignment e)).foldlM (fun d e => d.set e.1 e.2) d =
      .ok { d with overrides := pairs.foldl (fun b e => b.insert e.1 e.2) d.overrides } := by
  induction pairs generalizing d with
  | nil => rfl
  | cons e pairs ih =>
    obtain ⟨⟨hne, hname⟩, hrest⟩ := List.forall_mem_cons.1 h
    have hset : d.set .override (assignment e) = .ok { d with overrides := d.overrides.insert e.1 e.2 } := by
      rw [Draft.set, override?_assignment hne hname]
    rw [List.map_cons, List.foldlM_cons, hset]
    exact ih hrest _

end CommandLine

end RoutePatterns
