import GraphBroker.Json.Source
import GraphBroker.Proofs.Json.Tokens
import GraphBroker.Proofs.Text.Utf8

namespace GraphBroker.Json

/-!
# The documents of tokens

The tokens of a document put the document together again.  Only what is nested
too deep is lost: the containers beyond the limit come back without a value.
-/

namespace Document

mutual

/-- A document inside so many containers, as it comes back: what is nested too deep is unreadable. -/
def clip (depth : Nat) : Document → Document
  | .list items closed =>
      if depthLimit < depth + 1 then .unreadable true
      else .list (clipItems (depth + 1) items) closed
  | .table members closed =>
      if depthLimit < depth + 1 then .unreadable true
      else .table (clipMembers (depth + 1) members) closed
  | .null => .null
  | .flag value => .flag value
  | .number value => .number value
  | .text value => .text value
  | .unreadable whole => .unreadable whole

def clipItems (depth : Nat) : List Document → List Document
  | [] => []
  | item :: rest => clip depth item :: clipItems depth rest

def clipMembers (depth : Nat) :
    List (Option String × Document) → List (Option String × Document)
  | [] => []
  | (key, value) :: rest => (key, clip depth value) :: clipMembers depth rest

end

end Document

/-- What has been put together of tokens that come newest first. -/
def draftOf (tokens : List Token) : Draft :=
  tokens.foldr (fun token draft => draft.step token) Draft.start

@[simp]
theorem draftOf_cons
    (token : Token)
    (tokens : List Token) :
    draftOf (token :: tokens) = (draftOf tokens).step token :=
  rfl

namespace Draft

/-- A value may come next. -/
structure Accepts (draft : Draft) : Prop where
  unstuck : draft.stuck = false
  await : draft.await = .value ∨ draft.await = .itemOrEnd

/-- The draft inside a further container. -/
def within (draft : Draft) (container : OpenContainer) (await : Await) : Draft :=
  { draft with
    containers := container :: draft.containers
    depth := draft.depth + 1
    await := await }

variable {draft : Draft}

theorem Accepts.value
    (accepts : draft.Accepts)
    (value : Document) :
    draft.value value = draft.place value := by
  rcases accepts.await with await | await <;> simp [Draft.value, await]

theorem Accepts.openContainer
    (accepts : draft.Accepts)
    (container : OpenContainer)
    (await : Await) :
    draft.openContainer container await = draft.within container await := by
  rcases accepts.await with awaiting | awaiting <;>
    simp [Draft.openContainer, awaiting, within]

theorem Accepts.text
    (accepts : draft.Accepts)
    (value : String) :
    draft.text (some value) = draft.place (.text value) := by
  have placed := accepts.value (.text value)
  rcases accepts.await with await | await
  · simpa [Draft.text, await] using placed
  · simpa [Draft.text, await] using placed

/-- Closing a container puts it where the draft was before it was opened. -/
theorem closeContainer_within
    (draft : Draft)
    (container : OpenContainer)
    (await : Await) :
    (draft.within container await).closeContainer =
      draft.place
        (if depthLimit < draft.depth + 1 then .unreadable true else container.close) := by
  obtain ⟨containers, depth, awaiting, root, stuck⟩ := draft
  cases containers <;> rfl

theorem step_closeList
    (fresh : draft.stuck = false)
    (items : List Document)
    {await : Await}
    (complete : await = .itemOrEnd ∨ await = .separator) :
    (draft.within (.list items) await).step .closeList =
      draft.place
        (if depthLimit < draft.depth + 1 then .unreadable true else .list items.reverse true) := by
  have closed := closeContainer_within draft (.list items) await
  rcases complete with rfl | rfl
  · simpa [Draft.step, fresh, within, OpenContainer.close] using closed
  · simpa [Draft.step, fresh, within, OpenContainer.close] using closed

theorem step_closeTable
    (fresh : draft.stuck = false)
    (members : List (Option String × Document))
    {await : Await}
    (complete : await = .keyOrEnd ∨ await = .separator) :
    (draft.within (.table members none) await).step .closeTable =
      draft.place
        (if depthLimit < draft.depth + 1 then .unreadable true
          else .table members.reverse true) := by
  have closed := closeContainer_within draft (.table members none) await
  rcases complete with rfl | rfl
  · simpa [Draft.step, fresh, within, OpenContainer.close] using closed
  · simpa [Draft.step, fresh, within, OpenContainer.close] using closed

/-- Inside a list, in front of an item. -/
theorem accepts_separated
    (fresh : draft.stuck = false)
    {tokens : List Token}
    {first : Bool}
    {items : List Document}
    (drafted :
      draftOf tokens = draft.within (.list items) (if first then .itemOrEnd else .separator)) :
    ∃ await, (await = .value ∨ await = .itemOrEnd) ∧
      draftOf (if first then tokens else .comma :: tokens) = draft.within (.list items) await := by
  cases first with
  | true =>
      exact ⟨.itemOrEnd, Or.inr rfl, drafted⟩
  | false =>
      refine ⟨.value, Or.inl rfl, ?_⟩
      simp only [Bool.false_eq_true, if_false, draftOf_cons] at drafted ⊢
      rw [drafted]
      simp [Draft.step, fresh, within]

theorem keyed_separated
    (fresh : draft.stuck = false)
    {tokens : List Token}
    {first : Bool}
    {members : List (Option String × Document)}
    (drafted :
      draftOf tokens = draft.within (.table members none) (if first then .keyOrEnd else .separator))
    (key : String) :
    draftOf (.colon :: .text (some key) :: if first then tokens else .comma :: tokens) =
      draft.within (.table members (some (some key))) .value := by
  cases first with
  | true =>
      simp only [if_true, draftOf_cons] at drafted ⊢
      rw [drafted]
      simp [Draft.step, Draft.text, fresh, within]
  | false =>
      simp only [Bool.false_eq_true, if_false, draftOf_cons] at drafted ⊢
      rw [drafted]
      simp [Draft.step, Draft.text, fresh, within]

end Draft

namespace Document

open Draft

/-- The items of a list are put together, if each of them is. -/
theorem draftOf_items
    {items : List Document}
    (read :
      ∀ item ∈ items, ∀ {tokens},
        (draftOf tokens).Accepts →
        draftOf (tokensOnto tokens item) =
          (draftOf tokens).place (clip (draftOf tokens).depth item))
    {draft : Draft}
    (fresh : draft.stuck = false)
    {tokens : List Token}
    {first : Bool}
    {done : List Document}
    (drafted :
      draftOf tokens = draft.within (.list done) (if first then .itemOrEnd else .separator)) :
    ∃ await, (await = .itemOrEnd ∨ await = .separator) ∧
      draftOf (itemTokensOnto tokens first items) =
        draft.within (.list ((clipItems (draft.depth + 1) items).reverse ++ done)) await := by
  induction items generalizing tokens first done with
  | nil =>
      refine ⟨_, ?_, drafted⟩
      cases first <;> simp
  | cons item rest inductionHypothesis =>
      obtain ⟨await, awaits, separated⟩ := accepts_separated fresh drafted
      have accepts : (draftOf (if first then tokens else .comma :: tokens)).Accepts := by
        rw [separated]
        exact ⟨fresh, awaits⟩
      have placed := read item (by simp) accepts
      rw [separated] at placed
      have next : draftOf (tokensOnto (if first then tokens else .comma :: tokens) item) =
          draft.within (.list (clip (draft.depth + 1) item :: done))
            (if false then .itemOrEnd else .separator) :=
        placed
      have later := inductionHypothesis (fun other member => read other (by simp [member])) next
      simpa [itemTokensOnto, clipItems] using later

theorem draftOf_members
    {members : List (Option String × Document)}
    (keyed : ∀ member ∈ members, member.1 ≠ none)
    (read :
      ∀ member ∈ members, ∀ {tokens},
        (draftOf tokens).Accepts →
        draftOf (tokensOnto tokens member.2) =
          (draftOf tokens).place (clip (draftOf tokens).depth member.2))
    {draft : Draft}
    (fresh : draft.stuck = false)
    {tokens : List Token}
    {first : Bool}
    {done : List (Option String × Document)}
    (drafted :
      draftOf tokens = draft.within (.table done none) (if first then .keyOrEnd else .separator)) :
    ∃ await, (await = .keyOrEnd ∨ await = .separator) ∧
      draftOf (memberTokensOnto tokens first members) =
        draft.within (.table ((clipMembers (draft.depth + 1) members).reverse ++ done) none)
          await := by
  induction members generalizing tokens first done with
  | nil =>
      refine ⟨_, ?_, drafted⟩
      cases first <;> simp
  | cons member rest inductionHypothesis =>
      obtain ⟨key, value⟩ := member
      cases key with
      | none =>
          exact absurd rfl (keyed (none, value) (by simp))
      | some key =>
          have opened := keyed_separated fresh drafted key
          have accepts : (draftOf
              (.colon :: .text (some key) :: if first then tokens else .comma :: tokens)).Accepts := by
            rw [opened]
            exact ⟨fresh, Or.inl rfl⟩
          have placed := read (some key, value) (by simp) accepts
          rw [opened] at placed
          have next : draftOf (tokensOnto
                (.colon :: .text (some key) :: if first then tokens else .comma :: tokens) value) =
              draft.within (.table ((some key, clip (draft.depth + 1) value) :: done) none)
                (if false then .keyOrEnd else .separator) :=
            placed
          have later :=
            inductionHypothesis (fun other member => keyed other (by simp [member]))
              (fun other member => read other (by simp [member])) next
          simpa [memberTokensOnto, clipMembers] using later

/-- The tokens of a document put it where a value may come. -/
theorem Legible.draftOf_tokensOnto
    {document : Document}
    (legible : document.Legible)
    {tokens : List Token}
    (accepts : (draftOf tokens).Accepts) :
    draftOf (tokensOnto tokens document) =
      (draftOf tokens).place (clip (draftOf tokens).depth document) := by
  have fresh := accepts.unstuck
  induction legible generalizing tokens with
  | null =>
      simp [tokensOnto, clip, Draft.step, fresh, accepts.value]
  | flag value =>
      simp [tokensOnto, clip, Draft.step, fresh, accepts.value]
  | number integral =>
      simp [tokensOnto, clip, Draft.step, fresh, accepts.value]
  | text value =>
      simp [tokensOnto, clip, Draft.step, fresh, accepts.text]
  | @list items legible read =>
      have opened : draftOf (.openList :: tokens) =
          (draftOf tokens).within (.list []) (if true then .itemOrEnd else .separator) := by
        simp [Draft.step, fresh, accepts.openContainer]
      obtain ⟨await, complete, inside⟩ :=
        draftOf_items (fun item member _ accepts => read item member accepts accepts.unstuck)
          fresh opened
      rw [tokensOnto, draftOf_cons, inside, step_closeList fresh _ complete]
      simp [clip]
  | @table members keyed legible read =>
      have opened : draftOf (.openTable :: tokens) =
          (draftOf tokens).within (.table [] none) (if true then .keyOrEnd else .separator) := by
        simp [Draft.step, fresh, accepts.openContainer]
      obtain ⟨await, complete, inside⟩ :=
        draftOf_members keyed
          (fun member inside _ accepts => read member inside accepts accepts.unstuck)
          fresh opened
      rw [tokensOnto, draftOf_cons, inside, step_closeTable fresh _ complete]
      simp [clip]

/-- The document of a written document is that document, but for what is nested too deep. -/
theorem Legible.ofTokens_tokensOnto
    {document : Document}
    (legible : document.Legible) :
    Source.ofTokens (tokensOnto [] document).reverse = ⟨clip 0 document, true⟩ := by
  have accepts : (draftOf []).Accepts := ⟨rfl, Or.inl rfl⟩
  rw [Source.ofTokens, List.foldl_reverse]
  have drafted := legible.draftOf_tokensOnto accepts
  rw [draftOf] at drafted
  rw [drafted]
  rfl

/-- The written form of a document is read as that document, but for what is nested too deep. -/
theorem Legible.ofBytes_chars
    {document : Document}
    (legible : document.Legible) :
    Source.ofBytes (Text.Utf8.encodeChars document.chars) = ⟨clip 0 document, true⟩ := by
  rw [Source.ofBytes, Text.Utf8.units_encodeChars, Source.ofUnits, legible.tokens_chars,
    legible.ofTokens_tokensOnto]

end Document

end GraphBroker.Json
