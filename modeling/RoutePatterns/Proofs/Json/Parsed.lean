import RoutePatterns.Json.Writer

/-!
# The tokens of a value

The tokens of a value denote the value (`Value.ofTokens?_tokens`): wherever a value may begin, reading them
completes the value (`Value.readAll_tokens`), and the items of an array and the members of an object are
collected one after the other.
-/

namespace RoutePatterns

namespace Json

/-- Reads several tokens. -/
def Reading.readAll (r : Reading) (ts : List Token) : Option Reading := ts.foldlM step r

namespace Value

variable {stack : List Frame} {items : List Value} {members : List (Option String × Value)}

/-- Where an array was just opened, the tokens of its items are read as those of later ones. -/
theorem readAll_firstItem {vs : List Value} (hne : vs ≠ []) (ts : List Token) :
    Reading.readAll ⟨.array items :: stack, .firstItem⟩ (tokensOfItems vs ++ ts) =
      Reading.readAll ⟨.array items :: stack, .value⟩ (tokensOfItems vs ++ ts) := by
  have hitem : ∀ (v : Value) (ts : List Token),
      Reading.readAll ⟨.array items :: stack, .firstItem⟩ (v.tokens ++ ts) =
        Reading.readAll ⟨.array items :: stack, .value⟩ (v.tokens ++ ts) := by
    intro v ts
    cases v <;> rfl
  match vs with
  | [v] => exact hitem v ts
  | v :: w :: vs =>
    rw [tokensOfItems_cons_cons, List.append_assoc]
    exact hitem v _

/-- Where an object was just opened, the tokens of its members are read as those of later ones. -/
theorem readAll_firstKey {ms : List (Option String × Value)} (hne : ms ≠ []) (ts : List Token) :
    Reading.readAll ⟨.object members :: stack, .firstKey⟩ (tokensOfMembers ms ++ ts) =
      Reading.readAll ⟨.object members :: stack, .key⟩ (tokensOfMembers ms ++ ts) := by
  match ms with
  | [(k, v)] => rfl
  | (k, v) :: m :: ms => rfl

mutual

/-- **The tokens of a value complete the value.** -/
theorem readAll_tokens : ∀ (v : Value) (stack : List Frame) (ts : List Token),
    Reading.readAll ⟨stack, .value⟩ (v.tokens ++ ts) =
      (Reading.complete stack v).bind fun r => r.readAll ts
  | null, _, _ | bool _, _, _ | number _, _, _ | string _, _, _ => rfl
  | array [], _, _ | object [], _, _ => rfl
  | array (v :: vs), stack, ts => by
    have hitems := readAll_tokensOfItems (v :: vs) [] stack (.closeBracket :: ts) (by simp)
    have hclose : Reading.readAll ⟨.array (v :: vs).reverse :: stack, .next⟩ (.closeBracket :: ts) =
        (Reading.complete stack (array (v :: vs).reverse.reverse)).bind fun r => r.readAll ts := rfl
    rw [List.append_nil, hclose, List.reverse_reverse] at hitems
    rw [tokens, List.cons_append, List.cons_append, List.append_assoc]
    exact (readAll_firstItem (by simp) _).trans hitems
  | object (m :: ms), stack, ts => by
    have hmembers := readAll_tokensOfMembers (m :: ms) [] stack (.closeBrace :: ts) (by simp)
    have hclose : Reading.readAll ⟨.object (m :: ms).reverse :: stack, .next⟩ (.closeBrace :: ts) =
        (Reading.complete stack (object (m :: ms).reverse.reverse)).bind fun r => r.readAll ts := rfl
    rw [List.append_nil, hclose, List.reverse_reverse] at hmembers
    rw [tokens, List.cons_append, List.cons_append, List.append_assoc]
    exact (readAll_firstKey (by simp) _).trans hmembers

theorem readAll_tokensOfItems : ∀ (vs items : List Value) (stack : List Frame) (ts : List Token), vs ≠ [] →
    Reading.readAll ⟨.array items :: stack, .value⟩ (tokensOfItems vs ++ ts) =
      Reading.readAll ⟨.array (vs.reverse ++ items) :: stack, .next⟩ ts
  | [v], items, stack, ts, _ => readAll_tokens v (.array items :: stack) ts
  | v :: w :: vs, items, stack, ts, _ => by
    have hitem := readAll_tokens v (.array items :: stack) (.comma :: (tokensOfItems (w :: vs) ++ ts))
    have hrest := readAll_tokensOfItems (w :: vs) (v :: items) stack ts (by simp)
    rw [tokensOfItems_cons_cons, List.append_assoc, List.reverse_cons, List.append_assoc]
    exact hitem.trans hrest

theorem readAll_tokensOfMembers : ∀ (ms members : List (Option String × Value)) (stack : List Frame)
    (ts : List Token), ms ≠ [] →
    Reading.readAll ⟨.object members :: stack, .key⟩ (tokensOfMembers ms ++ ts) =
      Reading.readAll ⟨.object (ms.reverse ++ members) :: stack, .next⟩ ts
  | [(k, v)], members, stack, ts, _ => readAll_tokens v (.member members k :: stack) ts
  | (k, v) :: m :: ms, members, stack, ts, _ => by
    have hvalue := readAll_tokens v (.member members k :: stack) (.comma :: (tokensOfMembers (m :: ms) ++ ts))
    have hrest := readAll_tokensOfMembers (m :: ms) ((k, v) :: members) stack ts (by simp)
    rw [tokensOfMembers_cons_cons, List.append_assoc, List.reverse_cons, List.append_assoc]
    exact hvalue.trans hrest

end

/-- **The tokens of a value denote it.** -/
theorem ofTokens?_tokens (v : Value) : Value.ofTokens? v.tokens = some v := by
  have hread := readAll_tokens v [] []
  rw [List.append_nil] at hread
  rw [Value.ofTokens?]
  exact congrArg (fun r => r.bind Reading.result) hread

end Value

end Json

end RoutePatterns
