import RoutePatterns.Json.Codec
import RoutePatterns.Proofs.Bindings
import RoutePatterns.Proofs.Json.Parsed
import RoutePatterns.Proofs.Json.Spelled

/-!
# Decoding undoes encoding

A text that spells the tokens of a value is read as the value (`Value.read?_of_spells`), and each decoder undoes
its encoder on values (`decodeToken?_encodeToken`, `decodeRoute?_encodeRoute`, `decodePattern?_encodePattern`,
`decode?_encodeConfig`). `LawfulCoded` says so of a type, together with what makes its values texts: their
strings have texts. So the JSON text of a token, a route, a pattern or a configuration is decoded to what it was
written for, in whichever way it was written (`decode_undoes_encode`).
-/

namespace RoutePatterns

namespace Json

/-- **A text that spells the tokens of a value is read as the value.** -/
theorem Value.read?_of_spells {s : String} {v : Value} (h : Spells s.toList v.tokens) :
    Value.read? s = some v := by
  rw [Value.read?, lex_of_spells h]
  exact Value.ofTokens?_tokens v

/-! ### Values with texts -/

namespace Value

theorem hasText_null : null.HasText := List.forall_mem_singleton.2 trivial

theorem hasText_ofString (s : String) : (ofString s).HasText := List.forall_mem_singleton.2 rfl

theorem hasText_tokensOfItems : ∀ {vs : List Value}, (∀ v ∈ vs, v.HasText) → ∀ t ∈ tokensOfItems vs, t.HasText
  | [], _ => List.forall_mem_nil _
  | [v], h => h v List.mem_cons_self
  | v :: w :: vs, h => by
    obtain ⟨hv, hrest⟩ := List.forall_mem_cons.1 h
    rw [tokensOfItems_cons_cons, List.forall_mem_append, List.forall_mem_cons]
    exact ⟨hv, trivial, hasText_tokensOfItems hrest⟩

theorem hasText_tokensOfMembers : ∀ {ms : List (String × Value)}, (∀ m ∈ ms, m.2.HasText) →
    ∀ t ∈ tokensOfMembers (ms.map fun m => (some m.1, m.2)), t.HasText
  | [], _ => List.forall_mem_nil _
  | [(k, v)], h => List.forall_mem_cons.2 ⟨rfl, List.forall_mem_cons.2 ⟨trivial, h _ List.mem_cons_self⟩⟩
  | (k, v) :: m :: ms, h => by
    obtain ⟨hv, hrest⟩ := List.forall_mem_cons.1 h
    rw [List.map_cons, List.map_cons, tokensOfMembers_cons_cons, List.forall_mem_append, List.forall_mem_cons,
      List.forall_mem_cons, List.forall_mem_cons]
    exact ⟨⟨rfl, trivial, hv⟩, trivial, hasText_tokensOfMembers hrest⟩

theorem hasText_array {vs : List Value} (h : ∀ v ∈ vs, v.HasText) : (array vs).HasText := by
  rw [HasText, tokens, List.forall_mem_append, List.forall_mem_cons]
  exact ⟨⟨trivial, hasText_tokensOfItems h⟩, List.forall_mem_singleton.2 trivial⟩

theorem hasText_map {α : Type} {encode : α → Value} (h : ∀ x, (encode x).HasText) (xs : List α) :
    (array (xs.map encode)).HasText :=
  hasText_array (List.forall_mem_map.2 fun x _ => h x)

theorem hasText_ofMembers {ms : List (String × Value)} (h : ∀ m ∈ ms, m.2.HasText) : (ofMembers ms).HasText := by
  rw [HasText, ofMembers, tokens, List.forall_mem_append, List.forall_mem_cons]
  exact ⟨⟨trivial, hasText_tokensOfMembers h⟩, List.forall_mem_singleton.2 trivial⟩

end Value

/-! ### Reading encoded values -/

theorem mapM_map {α β : Type} {f : α → β} {g : β → Option α} (h : ∀ x, g (f x) = some x) (xs : List α) :
    (xs.map f).mapM g = some xs := by
  induction xs with
  | nil => rfl
  | cons x xs ih => simp [h, ih]

@[simp] theorem view_ofMembers (members : List (String × Value)) :
    format.view (.ofMembers members) = .table members := by
  have hmapM : (members.map fun m => (some m.1, m.2)).mapM
      (fun m : Option String × Value => m.1.map fun k => (k, m.2)) = some members :=
    mapM_map (f := fun m : String × Value => (some m.1, m.2)) (fun _ => rfl) members
  rw [Value.ofMembers, format]
  simp only [hmapM]

@[simp] theorem text?_ofString (s : String) : format.text? (.ofString s) = some s := rfl

theorem list?_map {α : Type} {encode : α → Value} {decode? : Value → Option α}
    (h : ∀ x, decode? (encode x) = some x) (xs : List α) :
    format.list? decode? (.array (xs.map encode)) = some xs := mapM_map h xs

theorem list?_ofStrings (l : List String) : format.list? format.text? (.ofStrings l) = some l :=
  list?_map text?_ofString l

theorem bindings?_encodeBindings (b : Bindings) : format.bindings? (encodeBindings b) = some b := by
  have hpairs : (b.entries.map fun e => (e.1, Value.ofString e.2)).mapM
      (fun m => (format.text? m.2).map fun s => (m.1, s)) = some b.entries :=
    mapM_map (f := fun e : String × String => (e.1, Value.ofString e.2)) (fun _ => rfl) b.entries
  rw [Data.Format.bindings?, encodeBindings, view_ofMembers]
  simp only [hpairs]
  exact congrArg some (Bindings.ofList_entries b)

/-- A record is read from its members, if no name comes twice. -/
theorem ofMembers?_of_nodup {names : List String} {members : List (String × Value)}
    (hnames : members.map Prod.fst = names) (h : names.Nodup) :
    Data.Format.ofMembers? names members = some fun name => members.lookup name := by
  have hcount : ∀ name, members.countP (fun m => m.1 == name) ≤ 1 := by
    intro name
    have hle := List.nodup_iff_count_le_one.1 h name
    rwa [← hnames, List.count, List.countP_map] at hle
  have hall : (names.all fun name => decide (members.countP (fun m => m.1 == name) ≤ 1)) = true :=
    List.all_eq_true.2 fun name _ => decide_eq_true (hcount name)
  rw [Data.Format.ofMembers?, if_pos hall]
  refine congrArg some (funext fun name => ?_)
  split
  · rfl
  · next hname => exact (lookup_eq_none_iff_not_mem.2 (hnames ▸ hname)).symm

theorem record?_ofMembers {names : List String} {members : List (String × Value)}
    (hnames : members.map Prod.fst = names) (h : names.Nodup) :
    format.record? names (.ofMembers members) = some fun name => members.lookup name := by
  rw [Data.Format.record?, view_ofMembers]
  exact ofMembers?_of_nodup hnames h

/-- A field with a value that can be read. -/
theorem required_of_lookup {α : Type} {members : List (String × Value)} {name : String} {v : Value} {x : α}
    {read : Value → Option α} (h : members.lookup name = some v) (hread : read v = some x) :
    Data.Record.required (fun name => members.lookup name) name read = some x := by
  rw [Data.Record.required, h]
  exact hread

theorem withDefault_of_lookup {α : Type} {members : List (String × Value)} {name : String} {v : Value}
    {x missing : α} {read : Value → Option α} (h : members.lookup name = some v) (hread : read v = some x) :
    Data.Record.withDefault (fun name => members.lookup name) name missing read = some x := by
  rw [Data.Record.withDefault, h]
  exact hread

/-! ### Tokens -/

theorem canKeep_null {level : Nat} (h : level ≤ maxDepth) : canKeep level .null = true := by
  simp [canKeep, Value.leaves, Value.depth, isKept, h]

theorem canKeep_ofString {level : Nat} (h : level ≤ maxDepth) (s : String) :
    canKeep level (.ofString s) = true := by
  simp [canKeep, Value.ofString, Value.leaves, Value.depth, isKept, h]

/-- A token that says first what it is. -/
theorem decodeToken?_ofMembers {level : Nat} {members : List (String × Value)}
    (hkeep : ∀ m ∈ members, m.1 ≠ "kind" ∧ canKeep (level + 1) m.2 = true) (kind : String) :
    decodeToken? level (.ofMembers (("kind", .ofString kind) :: members)) = tokenOfMembers? kind members := by
  have hkinds : members.filter (fun m => m.1 == "kind") = [] :=
    List.filter_eq_nil_iff.2 fun m hm => by simp [(hkeep m hm).1]
  have hothers : members.filter (fun m => m.1 != "kind") = members :=
    List.filter_eq_self.2 fun m hm => by simp [(hkeep m hm).1]
  have hall : (members.all fun m => canKeep (level + 1) m.2) = true :=
    List.all_eq_true.2 fun m hm => (hkeep m hm).2
  simp [decodeToken?, hkinds, hothers, hall]

theorem separator?_singleton (c : Char) : separator? (.ofString (String.singleton c)) = some (some c) := by
  have hchar : char? (.ofString (String.singleton c)) = some c := by simp [char?]
  exact congrArg (Option.map some) hchar

theorem decodeToken?_variable {level : Nat} (h : level < maxDepth) {value : Value} {separator : Option Char}
    (hseparator : separator? value = some separator) (hkeep : canKeep (level + 1) value = true)
    (constraint name : String) :
    decodeToken? level (.ofMembers [("kind", .ofString "variable"), ("separator", value),
        ("constraint", .ofString constraint), ("name", .ofString name)]) =
      some (.var separator constraint name) := by
  rw [decodeToken?_ofMembers (by simp [hkeep, canKeep_ofString h]), tokenOfMembers?,
    ofMembers?_of_nodup (by rfl) (by decide), Option.bind_eq_bind, Option.bind_some,
    withDefault_of_lookup (by rfl) hseparator, required_of_lookup (by rfl) (text?_ofString _),
    required_of_lookup (by rfl) (text?_ofString _)]
  rfl

theorem decodeToken?_encodeToken (level : Nat) (h : level < maxDepth) (t : RoutePatterns.Token) :
    decodeToken? level (encodeToken t) = some t := by
  cases t with
  | text content =>
    rw [encodeToken, decodeToken?_ofMembers (by simp [canKeep_ofString h]), tokenOfMembers?,
      ofMembers?_of_nodup (by rfl) (by decide), Option.bind_eq_bind, Option.bind_some,
      required_of_lookup (by rfl) (text?_ofString _)]
    rfl
  | var separator constraint name =>
    cases separator with
    | none => exact decodeToken?_variable h rfl (canKeep_null h) constraint name
    | some c => exact decodeToken?_variable h (separator?_singleton c) (canKeep_ofString h _) constraint name

/-! ### Routes, patterns and configurations -/

theorem decodeRoute?_encodeRoute (r : Route) : decodeRoute? (encodeRoute r) = some r := by
  have htokens := list?_map (decodeToken?_encodeToken 2 (by decide))
  rw [decodeRoute?, encodeRoute, record?_ofMembers (by rfl) (by decide), Option.bind_eq_bind, Option.bind_some]
  dsimp only
  rw [required_of_lookup (by rfl) (text?_ofString _), required_of_lookup (by rfl) (text?_ofString _),
    required_of_lookup (by rfl) (htokens _), required_of_lookup (by rfl) (list?_ofStrings _),
    required_of_lookup (by rfl) (list?_ofStrings _), required_of_lookup (by rfl) (text?_ofString _),
    required_of_lookup (by rfl) (htokens _), required_of_lookup (by rfl) (list?_ofStrings _),
    required_of_lookup (by rfl) (list?_ofStrings _)]
  rfl

theorem decodePattern?_encodePattern (p : Pattern) : decodePattern? (encodePattern p) = some p := by
  rw [decodePattern?, encodePattern, record?_ofMembers (by rfl) (by decide), Option.bind_eq_bind,
    Option.bind_some, withDefault_of_lookup (by rfl) (text?_ofString _),
    required_of_lookup (by rfl) (text?_ofString _), withDefault_of_lookup (by rfl) (bindings?_encodeBindings _)]
  rfl

theorem nullableText?_host (host : Option String) :
    format.nullableText? (match host with
      | none => .null
      | some host => .ofString host) = some host := by
  cases host <;> rfl

theorem decode?_encodeEntry (e : RouteEntry) : RouteEntry.decode? format (encodeEntry e) = some e := by
  rw [RouteEntry.decode?, encodeEntry, record?_ofMembers (by rfl) (by decide), Option.bind_eq_bind,
    Option.bind_some, required_of_lookup (by rfl) (text?_ofString _),
    withDefault_of_lookup (by rfl) (nullableText?_host _), required_of_lookup (by rfl) (text?_ofString _),
    withDefault_of_lookup (by rfl) (bindings?_encodeBindings _)]
  rfl

theorem decodeLogLevel?_ofMembers (logLevel : String) :
    Config.decodeLogLevel? format (.ofMembers [("log_level", .ofString logLevel)]) = some logLevel := by
  rw [Config.decodeLogLevel?, record?_ofMembers (by rfl) (by decide), Option.bind_eq_bind, Option.bind_some,
    withDefault_of_lookup (by rfl) (text?_ofString _)]

theorem decode?_encodeConfig (c : Config) : Config.decode? format (encodeConfig c) = some c := by
  rw [Config.decode?, encodeConfig, record?_ofMembers (by rfl) (by decide), Option.bind_eq_bind,
    Option.bind_some, withDefault_of_lookup (by rfl) (decodeLogLevel?_ofMembers _),
    withDefault_of_lookup (by rfl) (list?_map decode?_encodeEntry _)]
  rfl

/-! ### Types with a JSON form -/

theorem hasText_encodeToken (t : RoutePatterns.Token) : (encodeToken t).HasText := by
  cases t with
  | text content => exact Value.hasText_ofMembers (by simp [Value.hasText_ofString])
  | var separator constraint name =>
    cases separator <;>
      exact Value.hasText_ofMembers (by simp [Value.hasText_ofString, Value.hasText_null])

theorem hasText_encodeBindings (b : Bindings) : (encodeBindings b).HasText :=
  Value.hasText_ofMembers (List.forall_mem_map.2 fun _ _ => Value.hasText_ofString _)

theorem hasText_encodeEntry (e : RouteEntry) : (encodeEntry e).HasText := by
  obtain ⟨name, host, path, overrides⟩ := e
  cases host <;>
    exact Value.hasText_ofMembers
      (by simp [Value.hasText_ofString, Value.hasText_null, hasText_encodeBindings])

/-- A type whose values are written as texts and are read as what was written. -/
class LawfulCoded (α : Type) [Coded α] : Prop where
  hasText_encode : ∀ x : α, (Coded.encode x).HasText
  decode?_encode : ∀ x : α, Coded.decode? (Coded.encode x) = some x

instance : LawfulCoded RoutePatterns.Token where
  hasText_encode := hasText_encodeToken
  decode?_encode := decodeToken?_encodeToken 0 (by decide)

instance : LawfulCoded Route where
  hasText_encode _ := Value.hasText_ofMembers
    (by simp [Value.ofStrings, Value.hasText_ofString, Value.hasText_map, hasText_encodeToken])
  decode?_encode := decodeRoute?_encodeRoute

instance : LawfulCoded Pattern where
  hasText_encode _ := Value.hasText_ofMembers (by simp [Value.hasText_ofString, hasText_encodeBindings])
  decode?_encode := decodePattern?_encodePattern

instance : LawfulCoded Config where
  hasText_encode _ := by
    have hlogLevel (s : String) : (Value.ofMembers [("log_level", .ofString s)]).HasText :=
      Value.hasText_ofMembers (by simp [Value.hasText_ofString])
    exact Value.hasText_ofMembers (by simp [hlogLevel, Value.hasText_map, hasText_encodeEntry])
  decode?_encode := decode?_encodeConfig

variable {α : Type} [Coded α] [LawfulCoded α] {x : α}

/-- **A text that spells an encoded value is decoded to the value.** -/
theorem decodeText?_of_spells {s : String} (h : Spells s.toList (Coded.encode x).tokens) :
    decodeText? α s = some x := by
  rw [decodeText?, Value.read?_of_spells h]
  exact LawfulCoded.decode?_encode x

theorem decodeText?_compactText (x : α) : decodeText? α (compactText x) = some x :=
  decodeText?_of_spells (Value.spells_compact (LawfulCoded.hasText_encode x))

theorem decodeText?_prettyText (x : α) : decodeText? α (prettyText x) = some x :=
  decodeText?_of_spells (Value.spells_pretty (LawfulCoded.hasText_encode x))

/-- **Decoding undoes encoding**, for tokens, routes, patterns and configurations, whether they are written
without blanks or on several lines. -/
theorem decode_undoes_encode :
    (∀ t : RoutePatterns.Token, decodeText? RoutePatterns.Token (compactText t) = some t ∧
        decodeText? RoutePatterns.Token (prettyText t) = some t) ∧
      (∀ r : Route, decodeText? Route (compactText r) = some r ∧ decodeText? Route (prettyText r) = some r) ∧
      (∀ p : Pattern, decodeText? Pattern (compactText p) = some p ∧
        decodeText? Pattern (prettyText p) = some p) ∧
      ∀ c : Config, decodeText? Config (compactText c) = some c ∧ decodeText? Config (prettyText c) = some c :=
  ⟨fun t => ⟨decodeText?_compactText t, decodeText?_prettyText t⟩,
    fun r => ⟨decodeText?_compactText r, decodeText?_prettyText r⟩,
    fun p => ⟨decodeText?_compactText p, decodeText?_prettyText p⟩,
    fun c => ⟨decodeText?_compactText c, decodeText?_prettyText c⟩⟩

/-- Quotes, backslashes and control characters are escaped; other characters stand for themselves. -/
example :
    compactText (Token.var (some '"') "\\\x01" "é") =
      "\x7b\"kind\":\"variable\",\"separator\":\"\\\"\",\"constraint\":\"\\\\\\u0001\",\"name\":\"é\"\x7d" := by
  decide +kernel

end Json

end RoutePatterns
