import StorageHandler.Files.System

/-!
# Steps of a walk

A walk goes on from a directory by one name: it stays, goes up, goes down to what stands there, or
goes through a link, with the names of the target in front of the rest. `walk_stay`, `walk_up`,
`walk_down` and `walk_link` say so, and `walk_tooLong`, `walk_absent` and `walk_tooManyLinks` where
it ends instead.

What a name leads to from the working directory follows for all files that are read by their names
(`read_name`, `read_absent`).
-/

namespace StorageHandler.FileSystem

variable {fs : FileSystem}

/-- A name that is no dots and not empty. -/
def IsName (name : String) : Prop := name ≠ "" ∧ name ≠ "." ∧ name ≠ ".."

instance (name : String) : Decidable (IsName name) := inferInstanceAs (Decidable (_ ∧ _ ∧ _))

theorem IsName.not_stays {name : String} (h : IsName name) : ¬(name = "" ∨ name = ".") :=
  not_or.2 ⟨h.1, h.2.1⟩

/-- Where the names of a link's target start. -/
def targetStart (target : String) (place : List String) : List String :=
  if Path.rootOf target.toList = "" then place else []

section Steps

variable {last : Bool} {links : Nat} {place names : List String} {name : String}

theorem walk_nil {e : Entry} (h : fs.entry? place = some e) :
    fs.walk last links place [] = .ok (place, e) := by
  rw [walk, h]

theorem walk_stay (h : fs.entry? place = some .directory) (hname : name = "" ∨ name = ".") :
    fs.walk last links place (name :: names) = fs.walk last links place names := by
  rw [walk, h]
  exact if_pos hname

theorem walk_up (h : fs.entry? place = some .directory) :
    fs.walk last links place (".." :: names) = fs.walk last links place.dropLast names := by
  rw [walk, h]
  dsimp only
  rw [if_neg (by decide), if_pos rfl]

theorem walk_tooLong (h : fs.entry? place = some .directory) (hname : IsName name)
    (hlong : maxName < (Text.encode name).length) :
    fs.walk last links place (name :: names) = .error .nameTooLong := by
  rw [walk, h]
  dsimp only
  rw [if_neg hname.not_stays, if_neg hname.2.2, if_pos hlong]

variable (h : fs.entry? place = some .directory) (hname : IsName name)
  (hshort : (Text.encode name).length ≤ maxName)

include h hname hshort

theorem walk_absent (hnext : fs.entry? (place ++ [name]) = none) :
    fs.walk last links place (name :: names) = .error .notFound := by
  rw [walk, h]
  dsimp only
  rw [if_neg hname.not_stays, if_neg hname.2.2, if_neg (Nat.not_lt.2 hshort), hnext]

theorem walk_down {e : Entry} (hnext : fs.entry? (place ++ [name]) = some e)
    (hlink : ∀ target, e ≠ .link target) :
    fs.walk last links place (name :: names) = fs.walk last links (place ++ [name]) names := by
  rw [walk, h]
  dsimp only
  rw [if_neg hname.not_stays, if_neg hname.2.2, if_neg (Nat.not_lt.2 hshort), hnext]
  cases e with
  | link target => exact absurd rfl (hlink target)
  | _ => rfl

theorem walk_link {target : String} (hnext : fs.entry? (place ++ [name]) = some (.link target)) :
    fs.walk true (links + 1) place (name :: names) =
      fs.walk true links (targetStart target place) (Text.split '/' target ++ names) := by
  have hlast : ¬(names = [] ∧ ¬true = true) := fun hlast => hlast.2 rfl
  rw [walk, h]
  dsimp only
  rw [if_neg hname.not_stays, if_neg hname.2.2, if_neg (Nat.not_lt.2 hshort), hnext]
  dsimp only
  rw [if_neg hlast, targetStart, apply_ite (fun start => fs.walk true links start _)]

theorem walk_tooManyLinks {target : String}
    (hnext : fs.entry? (place ++ [name]) = some (.link target)) :
    fs.walk true 0 place (name :: names) = .error .tooManyLinks := by
  have hlast : ¬(names = [] ∧ ¬true = true) := fun hlast => hlast.2 rfl
  rw [walk, h]
  dsimp only
  rw [if_neg hname.not_stays, if_neg hname.2.2, if_neg (Nat.not_lt.2 hshort), hnext]
  exact if_neg hlast

end Steps

theorem find_eq_walk {p : Path} (hnul : Char.ofNat 0 ∉ p.text.toList)
    (hshort : (Text.encode p.text).length ≤ maxPath) :
    fs.find p = fs.walk true maxLinks (fs.start p.root) p.names := by
  have htext : p.text.contains (Char.ofNat 0) = false := by
    rw [String.contains_char_eq]
    exact decide_eq_false hnul
  rw [find, htext, if_neg Bool.false_ne_true, if_neg (Nat.not_lt.2 hshort)]

theorem isThere_of_walk {p : Path} {r : List String × Entry} (hnul : Char.ofNat 0 ∉ p.text.toList)
    (hshort : (Text.encode p.text).length ≤ maxPath)
    (h : fs.walk true maxLinks (fs.start p.root) p.names = .ok r) : fs.isThere p = .ok true := by
  rw [isThere, find_eq_walk hnul hshort, h]

/-! ## Files by their names -/

/-- A name that a file can have. -/
structure IsFileName (name : String) : Prop where
  isName : IsName name
  noNul : Char.ofNat 0 ∉ name.toList
  short : (Text.encode name).length ≤ maxName

instance (name : String) : Decidable (IsFileName name) :=
  decidable_of_iff
    (IsName name ∧ Char.ofNat 0 ∉ name.toList ∧ (Text.encode name).length ≤ maxName)
    ⟨fun h => ⟨h.1, h.2.1, h.2.2⟩, fun h => ⟨h.isName, h.noNul, h.short⟩⟩

section Names

variable {name : String} (hname : IsFileName name)
  (hplace : fs.entry? fs.workingDirectory = some .directory)

include hname

theorem IsFileName.find_eq_walk :
    fs.find ⟨"", [name]⟩ = fs.walk true maxLinks fs.workingDirectory [name] := by
  have htext : Path.text ⟨"", [name]⟩ = name := by simp [Path.text, Text.join]
  refine (FileSystem.find_eq_walk ?_ ?_).trans ?_
  · exact htext ▸ hname.noNul
  · exact htext ▸ Nat.le_trans hname.short (by decide)
  · rw [start, if_pos rfl]

include hplace

theorem read_name {content : List UInt8}
    (hfile : fs.entry? (fs.workingDirectory ++ [name]) = some (.file content)) :
    fs.read ⟨"", [name]⟩ = .ok content := by
  rw [read, hname.find_eq_walk, walk_down hplace hname.isName hname.short hfile (by simp),
    walk_nil hfile]
  rfl

theorem read_absent (habsent : fs.entry? (fs.workingDirectory ++ [name]) = none) :
    fs.read ⟨"", [name]⟩ = .error .notFound := by
  rw [read, hname.find_eq_walk, walk_absent hplace hname.isName hname.short habsent]
  rfl

end Names

end StorageHandler.FileSystem
