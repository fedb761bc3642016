import Mathlib.Data.List.Perm.Subperm
import StorageHandler.Proofs.Files.Walk

/-!
# Where paths lead

Following names from a place goes through links, and each link through the names of its target. The
relation `Leads` says where that ends and counts the links on the way. The system follows names in
one go with the target in front of the rest (`leads_of_walk`), while resolving a path opens every
link by itself (`unlink_of_leads`) : a link can be opened in itself only if it would go through more
links than it goes through.

So a path at which there is something is resolved to the place of that (`resolve_of_find`), if the
working directory is a place without links.
-/

namespace StorageHandler.FileSystem

variable {fs : FileSystem}

/-- The names lead from `place` to `place'` through `n` links. -/
inductive Leads (fs : FileSystem) : List String → List String → ℕ → List String → Prop
  | nil {place : List String} : Leads fs place [] 0 place
  | stay {place place' names : List String} {name : String} {n : ℕ} :
      name = "" ∨ name = "." → Leads fs place names n place' →
      Leads fs place (name :: names) n place'
  | up {place place' names : List String} {n : ℕ} :
      Leads fs place.dropLast names n place' → Leads fs place (".." :: names) n place'
  | down {place place' names : List String} {name : String} {n : ℕ} :
      IsName name → fs.linkAt? (place ++ [name]) = none →
      Leads fs (place ++ [name]) names n place' → Leads fs place (name :: names) n place'
  | link {place mid place' names : List String} {name target : String} {k n : ℕ} :
      IsName name → fs.linkAt? (place ++ [name]) = some target →
      Leads fs (targetStart target place) (Text.split '/' target) k mid →
      Leads fs mid names n place' → Leads fs place (name :: names) (k + 1 + n) place'

namespace Leads

variable {place place' place₁ place₂ names more : List String} {n m : ℕ}

/-- Names that lead somewhere do so by what their beginning leads to. -/
theorem of_append (h : Leads fs place (names ++ more) n place') :
    ∃ mid k l, Leads fs place names k mid ∧ Leads fs mid more l place' ∧ n = k + l := by
  induction names generalizing place n with
  | nil => exact ⟨place, 0, n, .nil, h, (Nat.zero_add n).symm⟩
  | cons name names ih =>
    cases h with
    | stay hname h =>
      obtain ⟨mid, k, l, hk, hl, rfl⟩ := ih h
      exact ⟨mid, k, l, .stay hname hk, hl, rfl⟩
    | up h =>
      obtain ⟨mid, k, l, hk, hl, rfl⟩ := ih h
      exact ⟨mid, k, l, .up hk, hl, rfl⟩
    | down hname hlink h =>
      obtain ⟨mid, k, l, hk, hl, rfl⟩ := ih h
      exact ⟨mid, k, l, .down hname hlink hk, hl, rfl⟩
    | @link _ _ _ _ _ _ j n hname hlink htarget h =>
      obtain ⟨mid, k, l, hk, hl, rfl⟩ := ih h
      exact ⟨mid, j + 1 + k, l, .link hname hlink htarget hk, hl, by omega⟩

/-- Names lead to one place, by one way. -/
theorem unique (h₁ : Leads fs place names n place₁) (h₂ : Leads fs place names m place₂) :
    n = m ∧ place₁ = place₂ := by
  induction h₁ generalizing m place₂ with
  | nil =>
    cases h₂
    exact ⟨rfl, rfl⟩
  | stay hname _ ih =>
    cases h₂ with
    | stay _ h => exact ih h
    | up h => simp at hname
    | down hname' _ _ => exact absurd hname hname'.not_stays
    | link hname' _ _ _ => exact absurd hname hname'.not_stays
  | up _ ih =>
    cases h₂ with
    | stay hname h => simp at hname
    | up h => exact ih h
    | down hname _ _ => exact absurd rfl hname.2.2
    | link hname _ _ _ => exact absurd rfl hname.2.2
  | down hname hlink _ ih =>
    cases h₂ with
    | stay hname' _ => exact absurd hname' hname.not_stays
    | up _ => exact absurd rfl hname.2.2
    | down _ _ h => exact ih h
    | link _ hlink' _ _ => rw [hlink] at hlink'; cases hlink'
  | link hname hlink _ _ ih₁ ih₂ =>
    cases h₂ with
    | stay hname' _ => exact absurd hname' hname.not_stays
    | up _ => exact absurd rfl hname.2.2
    | down _ hlink' _ => rw [hlink] at hlink'; cases hlink'
    | link _ hlink' h₁ h₂ =>
      rw [hlink] at hlink'
      obtain rfl := Option.some.inj hlink'
      obtain ⟨rfl, rfl⟩ := ih₁ h₁
      obtain ⟨rfl, rfl⟩ := ih₂ h₂
      exact ⟨rfl, rfl⟩

end Leads

/-! ## Walking -/

theorem linkAt?_eq_none {place : List String} {e : Entry} (h : fs.entry? place = some e)
    (he : ∀ target, e ≠ .link target) : fs.linkAt? place = none := by
  rw [linkAt?, h]
  cases e with
  | link target => exact absurd rfl (he target)
  | _ => rfl

theorem linkAt?_of_link {place : List String} {target : String}
    (h : fs.entry? place = some (.link target)) : fs.linkAt? place = some target := by
  rw [linkAt?, h]

/-- A step of a walk that arrives. -/
theorem walk_cons_eq_ok {links : ℕ} {place names : List String} {name : String}
    {r : List String × Entry} (h : fs.walk true links place (name :: names) = .ok r) :
    ((name = "" ∨ name = ".") ∧ fs.walk true links place names = .ok r) ∨
      (name = ".." ∧ fs.walk true links place.dropLast names = .ok r) ∨
      (IsName name ∧ fs.linkAt? (place ++ [name]) = none ∧
        fs.walk true links (place ++ [name]) names = .ok r) ∨
      ∃ target k, IsName name ∧ fs.linkAt? (place ++ [name]) = some target ∧ links = k + 1 ∧
        fs.walk true k (targetStart target place) (Text.split '/' target ++ names) = .ok r := by
  cases hp : fs.entry? place with
  | none => simp [walk, hp] at h
  | some e =>
    cases e with
    | file | closedFile | link => simp [walk, hp] at h
    | closedDirectory =>
      -- nothing but an empty name leads on from a closed directory
      rw [walk, hp] at h
      dsimp only at h
      by_cases hempty : name = ""
      · rw [if_pos hempty] at h
        exact .inl ⟨.inl hempty, h⟩
      · rw [if_neg hempty] at h
        cases h
    | directory =>
      by_cases hstay : name = "" ∨ name = "."
      · rw [walk_stay hp hstay] at h
        exact .inl ⟨hstay, h⟩
      by_cases hup : name = ".."
      · rw [hup, walk_up hp] at h
        exact .inr (.inl ⟨hup, h⟩)
      have hname : IsName name := ⟨fun h => hstay (.inl h), fun h => hstay (.inr h), hup⟩
      by_cases hlong : maxName < (Text.encode name).length
      · rw [walk_tooLong hp hname hlong] at h
        cases h
      have hshort := Nat.not_lt.1 hlong
      cases hnext : fs.entry? (place ++ [name]) with
      | none =>
        rw [walk_absent hp hname hshort hnext] at h
        cases h
      | some e =>
        cases e with
        | file | closedFile | directory | closedDirectory =>
          rw [walk_down hp hname hshort hnext (by simp)] at h
          exact .inr (.inr (.inl ⟨hname, linkAt?_eq_none hnext (by simp), h⟩))
        | link target =>
          cases links with
          | zero =>
            rw [walk_tooManyLinks hp hname hshort hnext] at h
            cases h
          | succ k =>
            rw [walk_link hp hname hshort hnext] at h
            exact .inr (.inr (.inr ⟨target, k, hname, linkAt?_of_link hnext, rfl, h⟩))

/-- A walk that arrives goes where the names lead. -/
theorem leads_of_walk {links : ℕ} {place names : List String} {r : List String × Entry}
    (h : fs.walk true links place names = .ok r) : ∃ n, Leads fs place names n r.1 := by
  induction links using Nat.strongRecOn generalizing place names with
  | ind links ihlinks =>
    induction names generalizing place with
    | nil =>
      rw [walk] at h
      cases hp : fs.entry? place with
      | none => simp [hp] at h
      | some e =>
        rw [hp] at h
        obtain rfl := Except.ok.inj h
        exact ⟨0, .nil⟩
    | cons name names ih =>
      rcases walk_cons_eq_ok h with ⟨hname, hrest⟩ | ⟨rfl, hrest⟩ | ⟨hname, hlink, hrest⟩ |
        ⟨target, k, hname, hlink, rfl, hrest⟩
      · obtain ⟨n, hn⟩ := ih hrest
        exact ⟨n, .stay hname hn⟩
      · obtain ⟨n, hn⟩ := ih hrest
        exact ⟨n, .up hn⟩
      · obtain ⟨n, hn⟩ := ih hrest
        exact ⟨n, .down hname hlink hn⟩
      · obtain ⟨n, hn⟩ := ihlinks k (Nat.lt_succ_self k) hrest
        obtain ⟨mid, j, l, hj, hl, -⟩ := hn.of_append
        exact ⟨j + 1 + l, .link hname hlink hj hl⟩

/-! ## Opening links -/

section Unlink

variable {links : ℕ} {opened : List (List String)} {place names : List String} {name : String}

theorem unlink_stay (hname : name = "" ∨ name = ".") :
    fs.unlink links opened place (name :: names) = fs.unlink links opened place names := by
  rw [unlink, if_pos hname]

theorem unlink_up :
    fs.unlink links opened place (".." :: names) = fs.unlink links opened place.dropLast names := by
  rw [unlink, if_neg (by simp), if_pos rfl]

theorem unlink_down (hname : IsName name) (hlink : fs.linkAt? (place ++ [name]) = none) :
    fs.unlink links opened place (name :: names) =
      fs.unlink links opened (place ++ [name]) names := by
  rw [unlink, if_neg hname.not_stays, if_neg hname.2.2]
  dsimp only
  rw [hlink]

theorem unlink_link {target : String} {mid : List String} (hname : IsName name)
    (hlink : fs.linkAt? (place ++ [name]) = some target) (hopened : place ++ [name] ∉ opened)
    (hmid : fs.unlink links ((place ++ [name]) :: opened) (targetStart target place)
      (Text.split '/' target) = (mid, true)) :
    fs.unlink (links + 1) opened place (name :: names) =
      fs.unlink (links + 1) opened mid names := by
  rw [targetStart] at hmid
  rw [unlink, if_neg hname.not_stays, if_neg hname.2.2]
  dsimp only
  rw [hlink]
  dsimp only
  rw [if_neg hopened, hmid]

end Unlink

/-- What is known while links are open : they are distinct, `links` more can be opened, and each of
them goes through more than `n` links. -/
structure Open (fs : FileSystem) (links : ℕ) (opened : List (List String)) (n : ℕ) : Prop where
  nodup : opened.Nodup
  isLink : ∀ o ∈ opened, fs.linkAt? o ≠ none
  count : opened.length + links = fs.entries.length
  longer : ∀ o ∈ opened, ∃ place name k mid, o = place ++ [name] ∧
    Leads fs place [name] k mid ∧ n < k

theorem mem_entries_of_linkAt? {place : List String} (h : fs.linkAt? place ≠ none) :
    place ∈ fs.entries.map Prod.fst := by
  rw [linkAt?, entry?] at h
  split_ifs at h with hroot
  · exact absurd rfl h
  · cases hfind : fs.entries.find? fun e => e.1 = place with
    | none => simp [hfind] at h
    | some e =>
      have he : e.1 = place := by simpa using List.find?_some hfind
      exact he ▸ List.mem_map_of_mem (List.mem_of_find?_eq_some hfind)

namespace Open

variable {links n m : ℕ} {opened : List (List String)} {place : List String} {name : String}

theorem mono (h : fs.Open links opened n) (hm : m ≤ n) : fs.Open links opened m := by
  refine ⟨h.nodup, h.isLink, h.count, fun o ho => ?_⟩
  obtain ⟨place, name, k, mid, rfl, hk, hlt⟩ := h.longer o ho
  exact ⟨place, name, k, mid, rfl, hk, Nat.lt_of_le_of_lt hm hlt⟩

/-- A link through which names lead is not open yet. -/
theorem notMem {k : ℕ} {mid : List String} (h : fs.Open links opened n)
    (hk : Leads fs place [name] k mid) (hle : k ≤ n) : place ++ [name] ∉ opened := by
  intro ho
  obtain ⟨place', name', k', mid', heq, hk', hlt⟩ := h.longer _ ho
  obtain ⟨rfl, hname⟩ := List.append_inj' heq rfl
  obtain rfl := List.singleton_inj.1 hname
  have := (hk.unique hk').1
  omega

/-- A link that is not open can be opened. -/
theorem cons {k : ℕ} {mid : List String} (h : fs.Open links opened n)
    (hlink : fs.linkAt? (place ++ [name]) ≠ none) (hk : Leads fs place [name] k mid) (hle : k ≤ n)
    (hm : m < k) : ∃ l, links = l + 1 ∧ fs.Open l ((place ++ [name]) :: opened) m := by
  have hnodup : ((place ++ [name]) :: opened).Nodup := List.nodup_cons.2 ⟨h.notMem hk hle, h.nodup⟩
  have hlinks : ∀ o ∈ (place ++ [name]) :: opened, fs.linkAt? o ≠ none :=
    List.forall_mem_cons.2 ⟨hlink, h.isLink⟩
  have hlength : ((place ++ [name]) :: opened).length ≤ (fs.entries.map Prod.fst).length :=
    (List.subperm_of_subset hnodup fun o ho => mem_entries_of_linkAt? (hlinks o ho)).length_le
  have hcount := h.count
  rw [List.length_cons, List.length_map] at hlength
  obtain ⟨l, rfl⟩ : ∃ l, links = l + 1 := ⟨links - 1, by omega⟩
  refine ⟨l, rfl, hnodup, hlinks, ?_, List.forall_mem_cons.2 ⟨?_, (h.mono (by omega)).longer⟩⟩
  · rw [List.length_cons]
    omega
  · exact ⟨place, name, k, mid, rfl, hk, hm⟩

end Open

/-- Names that lead somewhere are resolved to that place. -/
theorem unlink_of_leads {links n : ℕ} {opened : List (List String)}
    {place place' names : List String} (h : Leads fs place names n place')
    (hopen : fs.Open links opened n) :
    fs.unlink links opened place names = (place', true) := by
  induction h generalizing links opened with
  | nil => rw [unlink]
  | stay hname _ ih => rw [unlink_stay hname, ih hopen]
  | up _ ih => rw [unlink_up, ih hopen]
  | down hname hlink _ ih => rw [unlink_down hname hlink, ih hopen]
  | @link _ _ _ _ _ _ k n hname hlink htarget _ ih₁ ih₂ =>
    have hk := Leads.link hname hlink htarget .nil
    have hle : k + 1 + 0 ≤ k + 1 + n := by omega
    obtain ⟨l, rfl, hopen'⟩ := hopen.cons (by simp [hlink]) hk hle (m := k) (by omega)
    rw [unlink_link hname hlink (hopen.notMem hk hle) (ih₁ hopen'), ih₂ (hopen.mono (by omega))]

/-! ## Places without links -/

/-- A place that is written without dots and to which no link leads. -/
structure Settled (fs : FileSystem) (place : List String) : Prop where
  names : ∀ name ∈ place, IsName name
  links : ∀ p, p <+: place → fs.linkAt? p = none

namespace Settled

variable {place place' names : List String} {name : String} {n : ℕ}

theorem nil : fs.Settled [] := by
  refine ⟨fun name h => absurd h List.not_mem_nil, fun p h => ?_⟩
  rw [List.prefix_nil.1 h, linkAt?, entry?, if_pos rfl]

theorem dropLast (h : fs.Settled place) : fs.Settled place.dropLast :=
  ⟨fun name hname => h.names name (List.dropLast_subset place hname),
    fun p hp => h.links p (hp.trans (List.dropLast_prefix place))⟩

theorem append_singleton (h : fs.Settled place) (hname : IsName name)
    (hlink : fs.linkAt? (place ++ [name]) = none) : fs.Settled (place ++ [name]) := by
  constructor
  · rw [List.forall_mem_append, List.forall_mem_singleton]
    exact ⟨h.names, hname⟩
  · intro p hp
    rcases List.prefix_concat_iff.1 hp with rfl | hp
    · exact hlink
    · exact h.links p hp

theorem targetStart (h : fs.Settled place) (target : String) :
    fs.Settled (targetStart target place) := by
  rw [FileSystem.targetStart]
  split_ifs
  · exact h
  · exact .nil

end Settled

/-- From a place without links names lead to a place without links. -/
theorem Leads.settled {place place' names : List String} {n : ℕ}
    (h : Leads fs place names n place') (hplace : fs.Settled place) : fs.Settled place' := by
  induction h with
  | nil => exact hplace
  | stay _ _ ih => exact ih hplace
  | up _ ih => exact ih hplace.dropLast
  | down hname hlink _ ih => exact ih (hplace.append_singleton hname hlink)
  | link _ _ _ _ ih₁ ih₂ => exact ih₂ (ih₁ (hplace.targetStart _))

/-- There is nothing to collapse in a place without dots. -/
theorem Settled.collapse_eq {place : List String} (h : fs.Settled place) :
    collapse place = place := by
  have hfold : ∀ names done : List String, (∀ name ∈ names, IsName name) →
      names.foldl (fun done name =>
        if name = "" ∨ name = "." then done
        else if name = ".." then done.dropLast
        else done ++ [name]) done = done ++ names := by
    intro names
    induction names with
    | nil => exact fun done _ => (List.append_nil done).symm
    | cons name names ih =>
      intro done hnames
      obtain ⟨hname, hrest⟩ := List.forall_mem_cons.1 hnames
      rw [List.foldl_cons, if_neg hname.not_stays, if_neg hname.2.2, ih _ hrest, List.append_assoc,
        List.singleton_append]
  exact hfold place [] h.names

/-- A walk to a place without links meets none. -/
theorem Settled.walk_ne_tooManyLinks {place names : List String} (h : fs.Settled (place ++ names))
    (links : ℕ) : fs.walk true links place names ≠ .error .tooManyLinks := by
  induction names generalizing place with
  | nil =>
    rw [walk]
    cases fs.entry? place <;> simp
  | cons name names ih =>
    have hname : IsName name := h.names name (by simp)
    have hnext : fs.linkAt? (place ++ [name]) = none :=
      h.links _ ⟨names, by rw [List.append_assoc, List.singleton_append]⟩
    have hplace : fs.Settled (place ++ [name] ++ names) := by
      rw [List.append_assoc, List.singleton_append]
      exact h
    have hrest := ih hplace
    cases hp : fs.entry? place with
    | none => simp [walk, hp]
    | some e =>
      cases e with
      | file | closedFile | link => simp [walk, hp]
      | closedDirectory => simp [walk, hp, hname.1]
      | directory =>
        by_cases hlong : maxName < (Text.encode name).length
        · simp [walk_tooLong hp hname hlong]
        have hshort := Nat.not_lt.1 hlong
        cases he : fs.entry? (place ++ [name]) with
        | none => simp [walk_absent hp hname hshort he]
        | some e =>
          cases e with
          | link target => rw [linkAt?_of_link he] at hnext; cases hnext
          | file | closedFile | directory | closedDirectory =>
            rw [walk_down hp hname hshort he (by simp)]
            exact hrest

/-! ## Resolving -/

/-- A path that leads to something is resolved to the place of that. -/
theorem resolve_of_find (hfs : fs.Settled fs.workingDirectory) {p : Path} {r : List String × Entry}
    (h : fs.find p = .ok r) : fs.resolve p = some ⟨"/", r.1⟩ := by
  have hwalk : fs.walk true maxLinks (fs.start p.root) p.names = .ok r := by
    rw [find] at h
    split_ifs at h
    exact h
  have hstart : fs.Settled (fs.start p.root) := by
    rw [start]
    split_ifs
    · exact hfs
    · exact .nil
  obtain ⟨n, hn⟩ := leads_of_walk hwalk
  have hopen : fs.Open fs.entries.length [] n := ⟨List.nodup_nil, by simp, by simp, by simp⟩
  have hplace := hn.settled hstart
  have hfind : fs.find ⟨"/", r.1⟩ ≠ .error .tooManyLinks := by
    rw [find]
    split_ifs
    · simp
    · simp
    · exact hplace.walk_ne_tooManyLinks maxLinks
  rw [resolve, unlink_of_leads hn hopen]
  dsimp only
  rw [hplace.collapse_eq]
  cases hq : fs.find ⟨"/", r.1⟩ with
  | ok _ => rfl
  | error e => cases e <;> first | rfl | exact absurd hq hfind

theorem exists_find_of_isThere {p : Path} (h : fs.isThere p = .ok true) :
    ∃ r, fs.find p = .ok r := by
  rw [isThere] at h
  cases hfind : fs.find p with
  | ok r => exact ⟨r, rfl⟩
  | error e =>
    rw [hfind] at h
    dsimp only at h
    split_ifs at h
    cases h

end StorageHandler.FileSystem
