import TraceQuery.Config.Path

/-!
Where expanded paths lead. Whatever a text is, its expansion is absolute and expands to itself. A
text below the tilde leads below the home directory, and any other relative one below the working
directory; the exception is an absolute path below the tilde, which joining gives alone.
-/

set_option autoImplicit false
namespace TraceQuery

theorem Text.isBlank_last_trim {s : String} {c : Char}
    (last : (trim s).toList.getLast? = some c) : isBlank c = false := by
  rw [trim, String.toList_ofList, trimEnd, List.getLast?_reverse] at last
  have kept := List.head?_dropWhile_not isBlank (trimStart s.toList).reverse
  rw [last] at kept
  simpa using kept

namespace Path

/-! ## The components of a path -/

/--
The root of an absolute path, and its parts that are neither empty nor a dot: a dot names no place
of its own, and counts only where a relative path begins with it.
-/
def components (path : String) : List String :=
  let names := (parts path).filter (· ≠ ".")
  if isAbsolute path then "/" :: names
  else if (path.toList.splitOn '/').head? = some ['.'] then "." :: names
  else names

theorem parts_slash (front back : String) :
    parts (front ++ "/" ++ back) = parts front ++ parts back := by
  have split : (front ++ "/" ++ back).toList.splitOn '/' =
      front.toList.splitOn '/' ++ back.toList.splitOn '/' := by
    rw [String.toList_append, String.toList_append, List.append_assoc]
    exact List.splitOn_append_cons_self _ _
  rw [parts, split, List.filter_append, List.map_append]
  rfl

theorem parts_empty : parts "" = [] := rfl

theorem parts_join (base : String) {path : String} (relative : isAbsolute path = false) :
    parts (join base path) = parts base ++ parts path := by
  rw [join, if_neg (by simp [relative])]
  split
  · next ends =>
    rcases ends with rfl | ends
    · rw [String.empty_append, parts_empty, List.nil_append]
    · obtain ⟨front, same⟩ := List.getLast?_eq_some_iff.1 ends
      have split : base = String.ofList front ++ "/" := by
        rw [← String.toList_inj]
        simpa using same
      have whole := parts_slash (String.ofList front) ""
      rw [String.append_empty, parts_empty, List.append_nil] at whole
      rw [split, parts_slash, whole]
  · exact parts_slash base path

theorem isAbsolute_append {front : String} (absolute : isAbsolute front = true) (back : String) :
    isAbsolute (front ++ back) = true := by
  rw [isAbsolute, beq_iff_eq] at absolute
  rw [isAbsolute, String.toList_append, List.head?_append, absolute]
  rfl

theorem isAbsolute_join {base : String} (absolute : isAbsolute base = true) (path : String) :
    isAbsolute (join base path) = true := by
  rw [join]
  split
  · assumption
  split
  · exact isAbsolute_append absolute path
  · exact isAbsolute_append (isAbsolute_append absolute "/") path

theorem components_of_absolute {path : String} (absolute : isAbsolute path = true) :
    components path = "/" :: (parts path).filter (· ≠ ".") := by
  rw [components, if_pos absolute]

theorem filter_components {path : String} (relative : isAbsolute path = false) :
    (components path).filter (· ≠ ".") = (parts path).filter (· ≠ ".") := by
  rw [components, if_neg (by simp [relative])]
  split <;> simp

theorem components_join {base path : String} (absolute : isAbsolute base = true)
    (relative : isAbsolute path = false) :
    components (join base path) = components base ++ (components path).filter (· ≠ ".") := by
  rw [components_of_absolute (isAbsolute_join absolute path), components_of_absolute absolute,
    filter_components relative, parts_join base relative, List.filter_append, List.cons_append]

/-- A joined path ends as what was joined to it does, or in a slash. -/
theorem last_join {base path : String} {c : Char}
    (last : (join base path).toList.getLast? = some c) :
    path.toList.getLast? = some c ∨ c = '/' := by
  rw [join] at last
  split at last
  · exact .inl last
  split at last
  · next ends =>
    rw [String.toList_append, List.getLast?_append, Option.or_eq_some_iff] at last
    refine last.imp_right fun before => ?_
    rcases ends with rfl | ends
    · cases before.2
    · exact Option.some_inj.1 (before.2.symm.trans ends)
  · rw [String.toList_append, List.getLast?_append, Option.or_eq_some_iff] at last
    refine last.imp_right fun before => ?_
    have slash : (base ++ "/").toList.getLast? = some '/' := by
      rw [String.toList_append]
      exact List.getLast?_concat
    exact Option.some_inj.1 (before.2.symm.trans slash)

/-! ## Expansion -/

theorem trim_of_absolute {path : String} (absolute : isAbsolute path = true)
    (last : ∀ c, path.toList.getLast? = some c → Text.isBlank c = false) :
    Text.trim path = path := by
  rw [isAbsolute, beq_iff_eq] at absolute
  have kept {cs : List Char} (first : ∀ c, cs.head? = some c → Text.isBlank c = false) :
      cs.dropWhile Text.isBlank = cs := by
    cases cs with
    | nil => rfl
    | cons c rest => exact List.dropWhile_cons_of_neg (by simp [first c rfl])
  have start : Text.trimStart path.toList = path.toList := by
    refine kept fun c first => ?_
    cases absolute.symm.trans first
    rfl
  rw [Text.trim, start, Text.trimEnd, kept (by simpa using last), List.reverse_reverse,
    String.ofList_toList]

theorem withHome_of_absolute (home : String) {path : String} (absolute : isAbsolute path = true) :
    withHome home path = path := by
  rw [isAbsolute, beq_iff_eq] at absolute
  rw [withHome]
  split
  · next same => simp [same] at absolute
  · next same => simp [same] at absolute
  · rfl

theorem withHome_below (home rest : String) : withHome home ("~/" ++ rest) = join home rest := by
  simp [withHome]

theorem withHome_other (home : String) {text : String} (alone : text ≠ "~")
    (below : ∀ rest, text ≠ "~/" ++ rest) : withHome home text = text := by
  rw [withHome]
  split
  · next same => exact absurd (String.toList_inj.1 same) alone
  · next rest same =>
    refine absurd (String.toList_inj.1 ?_) (below (String.ofList rest))
    simp [same]
  · rfl

namespace Directories

structure Proper (dirs : Directories) : Prop where
  home : isAbsolute dirs.home = true
  working : isAbsolute dirs.working = true
  trimmed : Text.trim dirs.home = dirs.home

end Directories

section Expand

variable {dirs : Directories} {path : String}

theorem expand_of_absolute (absolute : isAbsolute (Text.trim path) = true) :
    expand dirs path = Text.trim path := by
  rw [expand, withHome_of_absolute _ absolute, if_pos absolute]

theorem expand_tilde (proper : dirs.Proper) (alone : Text.trim path = "~") :
    expand dirs path = dirs.home := by
  rw [expand, alone]
  exact if_pos proper.home

theorem expand_below (proper : dirs.Proper) {rest : String}
    (below : Text.trim path = "~/" ++ rest) : expand dirs path = join dirs.home rest := by
  rw [expand, below, withHome_below, if_pos (isAbsolute_join proper.home rest)]

theorem expand_relative (relative : isAbsolute (Text.trim path) = false)
    (alone : Text.trim path ≠ "~") (below : ∀ rest, Text.trim path ≠ "~/" ++ rest) :
    expand dirs path = join dirs.working (Text.trim path) := by
  rw [expand, withHome_other _ alone below, if_neg (by simp [relative])]

theorem expand_cases (proper : dirs.Proper) (path : String) :
    expand dirs path = dirs.home ∨
    (∃ rest, Text.trim path = "~/" ++ rest ∧ expand dirs path = join dirs.home rest) ∨
    expand dirs path = join dirs.working (Text.trim path) ∨
    (isAbsolute (Text.trim path) = true ∧ expand dirs path = Text.trim path) := by
  by_cases alone : Text.trim path = "~"
  · exact .inl (expand_tilde proper alone)
  by_cases below : ∃ rest, Text.trim path = "~/" ++ rest
  · obtain ⟨rest, below⟩ := below
    exact .inr (.inl ⟨rest, below, expand_below proper below⟩)
  cases absolute : isAbsolute (Text.trim path) with
  | true => exact .inr (.inr (.inr ⟨rfl, expand_of_absolute absolute⟩))
  | false => exact .inr (.inr (.inl (expand_relative absolute alone (not_exists.1 below))))

theorem isAbsolute_expand (proper : dirs.Proper) (path : String) :
    isAbsolute (expand dirs path) = true := by
  obtain same | ⟨rest, -, same⟩ | same | ⟨absolute, same⟩ := expand_cases proper path <;> rw [same]
  · exact proper.home
  · exact isAbsolute_join proper.home rest
  · exact isAbsolute_join proper.working _
  · exact absolute

theorem trim_expand (proper : dirs.Proper) (path : String) :
    Text.trim (expand dirs path) = expand dirs path := by
  have joined {base rest : String} (absolute : isAbsolute base = true)
      (last : ∀ c, rest.toList.getLast? = some c → Text.isBlank c = false) :
      Text.trim (join base rest) = join base rest := by
    refine trim_of_absolute (isAbsolute_join absolute rest) fun c ends => ?_
    rcases last_join ends with ends | rfl
    · exact last c ends
    · rfl
  obtain same | ⟨rest, below, same⟩ | same | ⟨absolute, same⟩ := expand_cases proper path <;>
    rw [same]
  · exact proper.trimmed
  · refine joined proper.home fun c ends => Text.isBlank_last_trim (s := path) ?_
    rw [below, String.toList_append, List.getLast?_append, ends]
    rfl
  · exact joined proper.working fun c ends => Text.isBlank_last_trim ends
  · exact trim_of_absolute absolute fun c ends => Text.isBlank_last_trim ends

/--
For home and working directories that are absolute, the path meant by a text is absolute and means
itself. A tilde alone is the home directory; a text below it leads below the home directory, if it
is not an absolute path that is joined; any other relative text leads below the working directory;
and an absolute one is left as it is.
-/
theorem expand_leads_below (dirs : Directories) (proper : dirs.Proper) (path : String) :
    isAbsolute (expand dirs path) = true ∧
    expand dirs (expand dirs path) = expand dirs path ∧
    (Text.trim path = "~" → expand dirs path = dirs.home) ∧
    (∀ rest, Text.trim path = "~/" ++ rest → isAbsolute rest = false →
      components (expand dirs path) =
        components dirs.home ++ (components rest).filter (· ≠ ".")) ∧
    (isAbsolute (Text.trim path) = false → Text.trim path ≠ "~" →
      (∀ rest, Text.trim path ≠ "~/" ++ rest) →
      components (expand dirs path) =
        components dirs.working ++ (components (Text.trim path)).filter (· ≠ ".")) ∧
    (isAbsolute (Text.trim path) = true → expand dirs path = Text.trim path) := by
  refine ⟨isAbsolute_expand proper path, ?_, expand_tilde proper, fun rest below relative => ?_,
    fun relative alone below => ?_, expand_of_absolute⟩
  · have again := isAbsolute_expand proper path
    rw [← trim_expand proper path] at again
    exact (expand_of_absolute again).trans (trim_expand proper path)
  · rw [expand_below proper below]
    exact components_join proper.home relative
  · rw [expand_relative relative alone below]
    exact components_join proper.working relative

/-- With repeated slashes, inner blanks, dots and steps back, all of which stay as written. -/
theorem expand_leads_below_home :
    let dirs : Directories := ⟨"/home/a b/", "/cwd"⟩
    let path := " ~/./x y//../s.db\t"
    expand dirs path = "/home/a b/./x y//../s.db" ∧
      expand dirs (expand dirs path) = expand dirs path ∧
      components dirs.home = ["/", "home", "a b"] ∧
      components "./x y//../s.db" = [".", "x y", "..", "s.db"] ∧
      components (expand dirs path) = ["/", "home", "a b", "x y", "..", "s.db"] := by
  intro dirs path
  have proper : dirs.Proper := ⟨by decide +kernel, by decide +kernel, by decide +kernel⟩
  obtain ⟨-, again, -, below, -, -⟩ := expand_leads_below dirs proper path
  have home : components dirs.home = ["/", "home", "a b"] := by decide +kernel
  have rest : components "./x y//../s.db" = [".", "x y", "..", "s.db"] := by decide +kernel
  refine ⟨by decide +kernel, again, home, rest, ?_⟩
  rw [below "./x y//../s.db" (by decide +kernel) (by decide +kernel), home, rest]
  decide

/-- With one slash more after the tilde, the path that is meant is not below the home directory. -/
theorem expand_leaves_home :
    let dirs : Directories := ⟨"/home", "/cwd"⟩
    dirs.Proper ∧ Text.trim "~//x" = "~/" ++ "/x" ∧ expand dirs "~//x" = "/x" ∧
      ¬components dirs.home <+: components (expand dirs "~//x") := by
  refine ⟨⟨?_, ?_, ?_⟩, ?_, ?_, ?_⟩ <;> decide +kernel

end Expand

end Path

end TraceQuery
