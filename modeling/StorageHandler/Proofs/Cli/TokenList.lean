import StorageHandler.Cli.Program
import StorageHandler.Proofs.Files.Walk
import StorageHandler.Proofs.OrderedMap
import StorageHandler.Proofs.Token.Grammar

/-!
# The list of tokens keeps the secrets

The label of a token is what the list may say about it, its kind and its service. What is printed
for a token file is made of the labels under their aliases (`Inspection.outcome_eq`), so two files
whose tokens have the same labels are printed alike. Which tokens are left when aliases are repeated
does not depend on more than the labels either (`labels_of_isStorage`) : the bytes of the secrets,
how numbers are written and what follows the storage never show (`Inspection.secretive`).
-/

namespace StorageHandler

/-! ## Labels -/

/-- What a token says about itself that is no secret : its kind and its service. -/
def SecurityToken.label (t : SecurityToken) : String × String := (t.kind, t.service)

/-- Tokens under their aliases, with their labels alone. -/
def tokenLabels (tokens : List (String × SecurityToken)) : List (String × String × String) :=
  tokens.map (Prod.map id SecurityToken.label)

/-- The labels of the tokens that credentials hold, in their order. -/
def Credentials.labels (c : Credentials) : List (String × String × String) :=
  tokenLabels c.tokens.entries

theorem tokenLabels_ofList (tokens : List (String × SecurityToken)) :
    tokenLabels (OrderedMap.ofList tokens).entries =
      (OrderedMap.ofList (tokenLabels tokens)).entries :=
  OrderedMap.map_entries_ofList SecurityToken.label tokens

namespace TokenStorage

/-- A storage is read whatever follows it, and the labels are those of its entries, a repeated alias
at its first place with the label that came last. -/
theorem labels_of_isStorage {p : List UInt8} {tokens : List (String × SecurityToken)}
    {secrets : List (String × List UInt8)} (h : IsStorage p tokens secrets) (rest : List UInt8) :
    ∃ c, read (p ++ rest) = .ok c ∧
      c.labels = (OrderedMap.ofList (tokenLabels tokens)).entries := by
  have hread := (recognizes_readCredentials (p ++ rest) rest ⟨.ofList tokens, .ofList secrets⟩).2
    ⟨p, rfl, tokens, secrets, h, rfl⟩
  exact ⟨_, read_eq_ok_iff.2 ⟨rest, hread⟩, tokenLabels_ofList tokens⟩

end TokenStorage

namespace Cli

open TokenStorage (IsBytes IsStorage IsText IsToken)

/-! ## Rows -/

/-- The line for a label under its alias. -/
def labelRow (e : String × String × String) : String :=
  e.1 ++ "\t" ++ e.2.1 ++ "\t" ++ e.2.2 ++ "\n"

theorem tokenList_eq (c : Credentials) : tokenList c = String.join (c.labels.map labelRow) := by
  rw [tokenList, Credentials.labels, tokenLabels, List.map_map]
  rfl

/-! ## Inspections -/

/-- A run of the command that lists tokens, on a file with bytes that are accepted. -/
structure Inspection where
  reader : Option Yaml.Reader
  env : Environment
  fs : FileSystem
  tokenFile : Option String
  path : Path
  bytes : List UInt8
  credentials : Credentials
  listed : listedFile env fs tokenFile = .ok path
  content : fs.read path = .ok bytes
  accepted : TokenStorage.read bytes = .ok credentials

namespace Inspection

/-- What the run leaves. -/
def outcome (i : Inspection) : Except Failure Outcome :=
  Command.outcome i.reader i.env i.fs (.inspectTokens i.tokenFile)

theorem readTokens_eq (i : Inspection) : i.fs.readTokens i.path = .ok i.credentials := by
  simp only [FileSystem.readTokens, i.content, i.accepted]
  rfl

theorem print_eq (i : Inspection) :
    Command.print i.reader i.env i.fs (.inspectTokens i.tokenFile) =
      .ok (tokenList i.credentials) := by
  rw [Command.print, tokenListing, i.listed]
  change ((i.fs.readTokens i.path).mapError TokenFileError.failure >>= fun c =>
    Except.ok (tokenList c)) = _
  rw [i.readTokens_eq]
  rfl

/-- The run succeeds, and what it prints is made of the labels. -/
theorem outcome_eq (i : Inspection) :
    i.outcome = .ok ⟨0, String.join (i.credentials.labels.map labelRow), ""⟩ := by
  rw [outcome, Command.outcome, i.print_eq, ← tokenList_eq]

theorem run_eq (i : Inspection) {arguments : List String}
    (h : Command.ofArguments arguments = .ok (.inspectTokens i.tokenFile)) :
    run i.reader i.env i.fs arguments = i.outcome := by
  rw [run, h]
  rfl

/-- Whatever secrets two token files hold, however their numbers are written and whatever follows,
tokens with the same labels in the same order are listed alike. Two storages have the same labels
exactly if the labels of their entries make the same map. -/
theorem secretive :
    (∀ i i' : Inspection, i.credentials.labels = i'.credentials.labels →
      ∃ output, (i.outcome = .ok ⟨0, output, ""⟩ ∧ i'.outcome = .ok ⟨0, output, ""⟩) ∧
        ∀ arguments arguments',
          Command.ofArguments arguments = .ok (.inspectTokens i.tokenFile) →
          Command.ofArguments arguments' = .ok (.inspectTokens i'.tokenFile) →
          run i.reader i.env i.fs arguments = .ok ⟨0, output, ""⟩ ∧
            run i'.reader i'.env i'.fs arguments' = .ok ⟨0, output, ""⟩) ∧
    ∀ p p' tokens tokens' secrets secrets', IsStorage p tokens secrets →
      IsStorage p' tokens' secrets' → ∀ rest rest', ∃ c c', TokenStorage.read (p ++ rest) = .ok c ∧
        TokenStorage.read (p' ++ rest') = .ok c' ∧
        (c.labels = c'.labels ↔
          OrderedMap.ofList (tokenLabels tokens) = OrderedMap.ofList (tokenLabels tokens')) := by
  constructor
  · intro i i' h
    have houtcome := i.outcome_eq
    have houtcome' := i'.outcome_eq
    rw [← h] at houtcome'
    refine ⟨_, ⟨houtcome, houtcome'⟩, fun arguments arguments' hargs hargs' => ?_⟩
    exact ⟨(i.run_eq hargs).trans houtcome, (i'.run_eq hargs').trans houtcome'⟩
  · intro p p' tokens tokens' secrets secrets' hp hp' rest rest'
    obtain ⟨c, hc, hlabels⟩ := TokenStorage.labels_of_isStorage hp rest
    obtain ⟨c', hc', hlabels'⟩ := TokenStorage.labels_of_isStorage hp' rest'
    refine ⟨c, c', hc, hc', ?_⟩
    rw [hlabels, hlabels']
    exact ⟨OrderedMap.ext, congrArg OrderedMap.entries⟩

/-- A storage with a token, as it would be written. -/
def plainTokens : List UInt8 :=
  TokenStorage.magic ++ [TokenStorage.version] ++ [1, 1, 97, 0, 1, 7, 1, 107, 1, 115] ++ [0]

/-- A storage with a repeated alias, other secrets and numbers in a longer form. -/
def looseTokens : List UInt8 :=
  TokenStorage.magic ++ [TokenStorage.version] ++
    [0x8f, 2, 1, 97, 0, 0, 0, 0, 1, 97, 2, 9, 9, 0, 0x8f, 1, 107, 1, 115] ++ [1, 1, 120, 1, 5]

/-- Two token files. A byte follows the end of the second one. -/
def twoTokenFiles : FileSystem where
  entries := [(["plain"], .file plainTokens), (["loose"], .file (looseTokens ++ [0xFF]))]
  workingDirectory := []
  home := "/"
  homes := []

theorem read_twoTokenFiles :
    twoTokenFiles.read ⟨"", ["plain"]⟩ = .ok plainTokens ∧
      twoTokenFiles.read ⟨"", ["loose"]⟩ = .ok (looseTokens ++ [0xFF]) :=
  ⟨FileSystem.read_name (by decide) rfl rfl,
    FileSystem.read_name (by decide) rfl rfl⟩

theorem isStorage_twoTokenFiles :
    IsStorage plainTokens [("a", ⟨[], [7], "k", "s"⟩)] [] ∧
      IsStorage looseTokens [("a", ⟨[], [], "", ""⟩), ("a", ⟨[9, 9], [], "k", "s"⟩)]
        [("x", [5])] := by
  have hnothing : IsBytes [0] [] := ⟨[0], rfl, rfl, by decide⟩
  have hblank : IsText [0] "" := ⟨[0], by decide, rfl, by decide⟩
  have hname : IsText [1, 97] "a" := ⟨[1], by decide, rfl, by decide⟩
  have hservice : IsText [1, 115] "s" := ⟨[1], by decide, rfl, by decide⟩
  constructor
  · have htoken : IsToken [0, 1, 7, 1, 107, 1, 115] ⟨[], [7], "k", "s"⟩ :=
      ⟨[0], [1, 7], [1, 107], [1, 115], rfl, hnothing, ⟨[1], rfl, rfl, by decide⟩,
        ⟨[1], by decide, rfl, by decide⟩, hservice⟩
    exact ⟨_, [0], rfl, ⟨[1], _, rfl, rfl, .cons hname htoken .nil⟩, [0], [], rfl, rfl, .nil⟩
  · have hlost : IsToken [0, 0, 0, 0] ⟨[], [], "", ""⟩ :=
      ⟨[0], [0], [0], [0], rfl, hnothing, hnothing, hblank, hblank⟩
    have htoken : IsToken [2, 9, 9, 0, 0x8f, 1, 107, 1, 115] ⟨[9, 9], [], "k", "s"⟩ :=
      ⟨[2, 9, 9], [0], [0x8f, 1, 107], [1, 115], rfl, ⟨[2], rfl, rfl, by decide⟩, hnothing,
        ⟨[0x8f, 1], by decide, rfl, by decide⟩, hservice⟩
    have hsecret : IsText [1, 120] "x" := ⟨[1], by decide, rfl, by decide⟩
    have hkey : IsBytes [1, 5] [5] := ⟨[1], rfl, rfl, by decide⟩
    exact ⟨_, [1, 1, 120, 1, 5], rfl,
      ⟨[0x8f, 2], _, rfl, rfl, .cons hname hlost (.cons hname htoken .nil)⟩,
      [1], _, rfl, rfl, .cons hsecret hkey .nil⟩

/-- The program lists the two files alike. -/
theorem secretive_twoTokenFiles :
    ∃ output, ∀ name ∈ ["plain", "loose"],
      run (some Yaml.read) ⟨none, none⟩ twoTokenFiles ["inspect-tokens", "--token-file", name] =
        .ok ⟨0, output, ""⟩ := by
  obtain ⟨c, c', hc, hc', hlabels⟩ :=
    secretive.2 _ _ _ _ _ _ isStorage_twoTokenFiles.1 isStorage_twoTokenFiles.2 [] [0xFF]
  rw [List.append_nil] at hc
  let plain : Inspection :=
    ⟨some Yaml.read, ⟨none, none⟩, twoTokenFiles, some "plain", ⟨"", ["plain"]⟩, _, c, by decide,
      read_twoTokenFiles.1, hc⟩
  let loose : Inspection :=
    ⟨some Yaml.read, ⟨none, none⟩, twoTokenFiles, some "loose", ⟨"", ["loose"]⟩, _, c', by decide,
      read_twoTokenFiles.2, hc'⟩
  obtain ⟨output, -, hrun⟩ := secretive.1 plain loose (hlabels.2 (by decide))
  obtain ⟨hplain, hloose⟩ := hrun ["inspect-tokens", "--token-file", "plain"]
    ["inspect-tokens", "--token-file", "loose"] (by rfl) (by rfl)
  exact ⟨output, List.forall_mem_cons.2 ⟨hplain, List.forall_mem_singleton.2 hloose⟩⟩

end Inspection

end Cli

end StorageHandler
