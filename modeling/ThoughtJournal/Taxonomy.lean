import ThoughtJournal.Dictionary
import ThoughtJournal.Text.Lowercase

/-! # Taxonomies

A taxonomy lists keywords under tags, and a text has a tag if one of the tag's keywords occurs in the
lower-case form of the text. A table of keywords becomes a taxonomy when every tag has a visible
character and at least one keyword and every keyword has a visible character; the entries are checked
in ascending order of the tags, and the first fault is reported.
-/

namespace ThoughtJournal

/-- Keywords under tags, as they are looked up. -/
structure Taxonomy where
  entries : Dictionary (List Text)
deriving DecidableEq

namespace Taxonomy

/-- Why a table of keywords is not a taxonomy. -/
inductive Fault where
  /-- A tag without a visible character. -/
  | emptyTag
  /-- A tag without keywords. -/
  | noKeywords (tag : Text)
  /-- A keyword without a visible character. -/
  | emptyKeyword (tag : Text)
deriving DecidableEq, Repr

def Fault.message : Fault → Text
  | .emptyTag => "tagger: tag names must not be empty".toList
  | .noKeywords tag => "tagger: tag '".toList ++ tag ++ "' has no keywords".toList
  | .emptyKeyword tag => "tagger: tag '".toList ++ tag ++ "' has an empty keyword".toList

/-- An entry of a table with its tag trimmed and its keywords in lower case. -/
def readEntry (tag : Text) (keywords : List Text) : Except Fault (Text × List Text) :=
  let tag := Text.trim tag
  if tag.isEmpty then .error .emptyTag
  else if keywords.isEmpty then .error (.noKeywords tag)
  else if keywords.any Text.isAllBlank then .error (.emptyKeyword tag)
  else .ok (tag, keywords.map Text.lower)

/-- The entries of a table, read in order up to the first fault. -/
def readEntries : List (Text × List Text) → Except Fault (List (Text × List Text))
  | [] => .ok []
  | (tag, keywords) :: rest =>
      match readEntry tag keywords with
      | .error fault => .error fault
      | .ok entry =>
          match readEntries rest with
          | .error fault => .error fault
          | .ok entries => .ok (entry :: entries)

/-- The taxonomy of a table of keywords. Of two tags that become equal by trimming, the later one in
the order of the table holds. -/
def ofTable (table : Dictionary (List Text)) : Except Fault Taxonomy :=
  match readEntries table.entries with
  | .error fault => .error fault
  | .ok entries => .ok ⟨Dictionary.ofList entries⟩

def tags (taxonomy : Taxonomy) : List Text := taxonomy.entries.keys

def size (taxonomy : Taxonomy) : Nat := taxonomy.entries.size

/-- The tags with a keyword in the lower-case form of the text, in ascending order. -/
def tagsOf (taxonomy : Taxonomy) (text : Text) : List Text :=
  let lowered := Text.lower text
  (taxonomy.entries.entries.filter fun entry =>
    entry.2.any fun keyword => Text.occursIn keyword lowered).map Prod.fst

/-- The keywords that hold when a configuration gives none. -/
def builtInTable : List (String × List String) := [
  ("ai", ["ai", "llm", "rag", "pgvector", "embedding", "openai", "gemini", "agent", "deepseek"]),
  ("observability", ["grafana", "loki", "alloy", "opentelemetry", "otel", "metrics", "tracing",
    "logs", "prometheus"]),
  ("kubernetes", ["kubernetes", "k3s", "pod", "pvc", "statefulset", "daemonset", "kubectl", "helm",
    "k8s"]),
  ("database", ["postgres", "postgresql", "jsonb", "timescaledb", "postgis", "sql", "mongodb",
    "database", "db"]),
  ("devops", ["github actions", "gitops", "reconciliation", "ci-cd", "docker", "terraform", "nix",
    "shell.nix"]),
  ("career", ["impostor syndrome", "growth", "senior", "leadership", "reflection", "mentorship",
    "career", "brag", "win", "impact", "job", "application", "interview", "resume", "cv"]),
  ("platform", ["openbao", "tailscale", "security", "infrastructure", "infra", "zero-trust",
    "secrets", "bao", "cloud", "platform", "homelab"]),
  ("cloud", ["aws", "azure", "gcp", "digitalocean", "atlas", "cloudflare", "cloud-native",
    "serverless"]),
  ("sre", ["incident", "rca", "post-mortem", "outage", "reliability", "slo", "sli", "error budget",
    "toil"]),
  ("language", ["go", "golang", "python", "rust", "typescript", "javascript", "bash", "shell"]),
  ("linux", ["linux", "systemd", "kernel", "gpu", "psu", "hardware", "cpu", "memory", "nixos"]),
  ("productivity", ["para", "second brain", "zettelkasten", "notion", "obsidian", "journal",
    "workflow"])]

/-- The taxonomy that holds when a configuration gives none. -/
def builtIn : Taxonomy :=
  ⟨Dictionary.ofList (builtInTable.map fun entry =>
    (entry.1.toList, entry.2.map String.toList))⟩

/-- A tag of a text is a tag of the taxonomy with a keyword that occurs in the lowered text. -/
theorem mem_tagsOf (taxonomy : Taxonomy) (text tag : Text) :
    tag ∈ taxonomy.tagsOf text ↔ ∃ keywords, (tag, keywords) ∈ taxonomy.entries.entries ∧
      ∃ keyword ∈ keywords, Text.occursIn keyword (Text.lower text) = true := by
  simp only [tagsOf, List.mem_map, List.mem_filter, List.any_eq_true, Prod.exists]
  constructor
  · rintro ⟨found, keywords, ⟨member, occurring⟩, rfl⟩
    exact ⟨keywords, member, occurring⟩
  · rintro ⟨keywords, member, occurring⟩
    exact ⟨tag, keywords, ⟨member, occurring⟩, rfl⟩

/-- The tags of a text are ascending. -/
theorem tagsOf_ascending (taxonomy : Taxonomy) (text : Text) :
    (taxonomy.tagsOf text).Pairwise (· < ·) :=
  taxonomy.entries.ascending.sublist (List.filter_sublist.map _)

end Taxonomy

end ThoughtJournal
