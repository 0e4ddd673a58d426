/-
# The document of a YAML text

The readings of a document take at most three steps for each token: a node, its
content, and the collection that it opens. So with a few steps more than that
the reading of a text always comes to an end, with a node or with a fault.
-/

import FluentCalc.Yaml.Node

namespace FluentCalc.Yaml

namespace Reading

variable {α β : Type} {feed : Feed}

/-- A reading comes to an end at a feed, and gives back none of the tokens it has taken. -/
def Ends (reading : Reading α) (feed : Feed) : Prop :=
  ∃ result : Except Fault (α × Feed), reading feed = some result ∧
    ∀ a feed', result = .ok (a, feed') → feed'.tokens.length ≤ feed.tokens.length

theorem ends_pure (a : α) : Ends (pure a) feed :=
  ⟨.ok (a, feed), rfl, fun _ _ h => by cases h; exact Nat.le_refl _⟩

theorem ends_fail (fault : Fault) : Ends (fail fault : Reading α) feed :=
  ⟨.error fault, rfl, fun _ _ h => nomatch h⟩

theorem ends_fail_bind {fault : Fault} {next : α → Reading β} :
    Ends (fail fault >>= next) feed :=
  ⟨.error fault, rfl, fun _ _ h => nomatch h⟩

theorem Ends.bind {reading : Reading α} {next : α → Reading β} (h : Ends reading feed)
    (hnext : ∀ a feed', feed'.tokens.length ≤ feed.tokens.length → Ends (next a) feed') :
    Ends (reading >>= next) feed := by
  obtain ⟨result, hresult, hle⟩ := h
  cases result with
  | error fault =>
      refine ⟨.error fault, ?_, fun _ _ h => nomatch h⟩
      change Option.bind (reading feed) _ = _
      rw [hresult]
      rfl
  | ok result =>
      obtain ⟨result', hresult', hle'⟩ := hnext result.1 result.2 (hle _ _ rfl)
      refine ⟨result', ?_, fun b feed' h => Nat.le_trans (hle' b feed' h) (hle _ _ rfl)⟩
      change Option.bind (reading feed) _ = _
      rw [hresult]
      exact hresult'

/-- What is done with a result takes no steps. -/
theorem Ends.map {reading : Reading α} (h : Ends reading feed) (f : α → β) :
    Ends (do return f (← reading)) feed :=
  h.bind fun a _ _ => ends_pure (f a)

/-- Whoever looks at the next token goes on with a feed that has it. -/
theorem ends_peek_bind {next : Token → Reading β}
    (hnext : ∀ t, 0 < feed.tokens.length → Ends (next t) feed) : Ends (peek >>= next) feed := by
  obtain ⟨tokens, fault, handles, anchors⟩ := feed
  cases tokens with
  | nil => exact ⟨.error (fault.getD .order), rfl, fun _ _ h => nomatch h⟩
  | cons t rest => exact hnext t (Nat.succ_pos _)

theorem ends_modify {change : Feed → Feed}
    (h : (change feed).tokens.length ≤ feed.tokens.length) : Ends (modify change) feed :=
  ⟨.ok ((), change feed), rfl, fun _ _ heq => by cases heq; exact h⟩

theorem ends_skip : Ends skip feed :=
  ends_modify (List.length_tail ▸ Nat.sub_le _ _)

/-- A token that is there is moved past. -/
theorem ends_skip_bind {next : Unit → Reading β} (hpos : 0 < feed.tokens.length)
    (hnext : ∀ feed', feed'.tokens.length < feed.tokens.length → Ends (next ()) feed') :
    Ends (skip >>= next) feed := by
  have htail : feed.tokens.tail.length < feed.tokens.length :=
    List.length_tail ▸ Nat.sub_lt hpos Nat.one_pos
  obtain ⟨result, hresult, hle⟩ := hnext { feed with tokens := feed.tokens.tail } htail
  exact ⟨result, hresult, fun a feed' h => Nat.le_trans (hle a feed' h) (Nat.le_of_lt htail)⟩

theorem ends_get_bind {next : Feed → Reading β} (h : Ends (next feed) feed) :
    Ends (get >>= next) feed :=
  h

theorem ends_enter (name : String) (node : Node) : Ends (enter name node) feed :=
  ends_modify (Nat.le_refl _)

theorem ends_anchored? (name : String) : Ends (anchored? name) feed :=
  ends_get_bind (ends_pure _)

theorem ends_aliased (name : String) : Ends (aliased name) feed := by
  refine (ends_anchored? name).bind fun node? _ _ => ?_
  cases node? with
  | none => exact ends_fail _
  | some node => exact ends_pure node

/-- Entering an anchor leaves all tokens in place. -/
theorem ends_enterNew_bind {name : String} {next : Unit → Reading β}
    (hnext : ∀ feed', feed'.tokens = feed.tokens → Ends (next ()) feed') :
    Ends (enterNew name >>= next) feed := by
  change Ends ((if ((feed.anchors.find? fun entry => entry.1 == name).map (·.2)).isSome then
    fail .reference else enter name .endless) >>= next) feed
  split
  · exact ends_fail_bind
  · exact hnext _ rfl

end Reading

open Reading

variable {feed : Feed}

theorem ends_readProperties : Ends readProperties feed := by
  refine ends_peek_bind fun t hpos => ?_
  split
  · refine ends_skip_bind hpos fun _ _ => ends_peek_bind fun _ _ => ?_
    split
    · exact ends_skip.bind fun _ _ _ => ends_pure _
    · exact ends_pure _
  · refine ends_skip_bind hpos fun _ _ => ends_peek_bind fun _ _ => ?_
    split
    · exact ends_skip.bind fun _ _ _ => ends_pure _
    · exact ends_pure _
  · exact ends_pure _

theorem ends_tagName (tag : Option String × String) : Ends (tagName tag) feed := by
  match tag with
  | (none, suffix) => exact ends_pure suffix
  | (some handle, suffix) =>
    refine ends_get_bind ?_
    split
    · exact ends_pure _
    · exact ends_fail _

theorem ends_writtenTag (tag? : Option (Option String × String)) :
    Ends (writtenTag tag?) feed := by
  cases tag? with
  | none => exact ends_pure none
  | some tag => exact (ends_tagName tag).map some

theorem ends_orEmpty {ends : Token → Bool} {reading : Reading Node} (h : Ends reading feed) :
    Ends (orEmpty ends reading) feed := by
  refine ends_peek_bind fun t _ => ?_
  split
  · exact ends_pure _
  · exact h

/-- Behind the comma in front of an entry there is a token less. -/
theorem ends_skipComma_bind {β : Type} {first : Bool} {next : Unit → Reading β}
    (hnext : ∀ feed', feed'.tokens.length + (if first then 0 else 1) ≤ feed.tokens.length →
      Ends (next ()) feed') : Ends (skipComma first >>= next) feed := by
  cases first with
  | true => exact hnext feed (Nat.le_refl _)
  | false =>
      rw [skipComma, if_neg Bool.false_ne_true, bind_assoc]
      refine ends_peek_bind fun t hpos => ?_
      split
      · exact ends_skip_bind hpos hnext
      · exact ends_fail_bind

/-- A number of steps is enough for the readings of nodes on feeds with few tokens. -/
structure Suffices (fuel : Nat) : Prop where
  node : ∀ {place feed}, 3 * feed.tokens.length + 3 ≤ fuel → Ends (readNode place fuel) feed
  content : ∀ {place written canBeEmpty content feed}, 0 < feed.tokens.length →
    3 * feed.tokens.length + 2 ≤ fuel →
      Ends (readContent place written canBeEmpty content fuel) feed
  items : ∀ {feed}, 3 * feed.tokens.length + 1 ≤ fuel → Ends (readItems fuel) feed
  looseItems : ∀ {feed}, 3 * feed.tokens.length + 1 ≤ fuel → Ends (readLooseItems fuel) feed
  members : ∀ {feed}, 3 * feed.tokens.length + 1 ≤ fuel → Ends (readMembers fuel) feed
  value : ∀ {place ends feed}, 3 * feed.tokens.length + 1 ≤ fuel →
    Ends (readValue place ends fuel) feed
  /-- The first entry of a flow collection has no comma that pays for it. -/
  flowEntries : ∀ {brackets first feed},
    3 * feed.tokens.length + (if first then 4 else 1) ≤ fuel →
      Ends (readFlowEntries brackets first fuel) feed

namespace Suffices

variable {fuel : Nat} (h : Suffices fuel)

include h

theorem node_succ {place : Place} (hfuel : 3 * feed.tokens.length + 3 ≤ fuel + 1) :
    Ends (readNode place (fuel + 1)) feed := by
  rw [readNode]
  refine ends_peek_bind fun t hpos => ?_
  split
  · exact ends_skip_bind hpos fun _ _ => ends_aliased _
  refine ends_readProperties.bind fun properties feed₁ h₁ => ?_
  refine (ends_writtenTag properties.tag).bind fun written feed₂ h₂ => ?_
  refine ends_peek_bind fun content hpos₂ => ?_
  split
  · exact h.content hpos₂ (by omega)
  · refine ends_enterNew_bind fun feed₃ h₃ => ?_
    rw [← h₃] at hpos₂ h₂
    refine (h.content hpos₂ (by omega)).bind fun node _ _ => ?_
    exact (ends_enter _ node).bind fun _ _ _ => ends_pure node

theorem content_succ {place : Place} {written : Option String} {canBeEmpty : Bool}
    {content : Token} (hpos : 0 < feed.tokens.length)
    (hfuel : 3 * feed.tokens.length + 2 ≤ fuel + 1) :
    Ends (readContent place written canBeEmpty content (fuel + 1)) feed := by
  unfold readContent
  split
  · exact (h.looseItems (by omega)).map _
  · exact ends_skip_bind hpos fun _ _ => ends_pure _
  · exact ends_skip_bind hpos fun _ hlt => (h.flowEntries (by grind)).map _
  · exact ends_skip_bind hpos fun _ hlt => (h.flowEntries (by grind)).map _
  · exact ends_skip_bind hpos fun _ hlt => (h.items (by omega)).map _
  · exact ends_skip_bind hpos fun _ hlt => (h.items (by omega)).map _
  · exact ends_skip_bind hpos fun _ hlt => (h.members (by omega)).map _
  · exact ends_skip_bind hpos fun _ hlt => (h.members (by omega)).map _
  · split
    · exact ends_pure _
    · exact ends_fail _

theorem items_succ (hfuel : 3 * feed.tokens.length + 1 ≤ fuel + 1) :
    Ends (readItems (fuel + 1)) feed := by
  rw [readItems]
  refine ends_peek_bind fun t hpos => ?_
  split
  · refine ends_skip_bind hpos fun feed₁ h₁ => ?_
    refine (ends_orEmpty (h.node (by omega))).bind fun item feed₂ h₂ => ?_
    exact (h.items (by omega)).map _
  · exact ends_skip_bind hpos fun _ _ => ends_pure _
  · exact ends_fail _

theorem looseItems_succ (hfuel : 3 * feed.tokens.length + 1 ≤ fuel + 1) :
    Ends (readLooseItems (fuel + 1)) feed := by
  rw [readLooseItems]
  refine ends_peek_bind fun t hpos => ?_
  split
  · refine ends_skip_bind hpos fun feed₁ h₁ => ?_
    refine (ends_orEmpty (h.node (by omega))).bind fun item feed₂ h₂ => ?_
    exact (h.looseItems (by omega)).map _
  · exact ends_pure _

theorem members_succ (hfuel : 3 * feed.tokens.length + 1 ≤ fuel + 1) :
    Ends (readMembers (fuel + 1)) feed := by
  rw [readMembers]
  refine ends_peek_bind fun t hpos => ?_
  split
  · refine ends_skip_bind hpos fun feed₁ h₁ => ?_
    refine (ends_orEmpty (h.node (by omega))).bind fun key feed₂ h₂ => ?_
    refine (h.value (by omega)).bind fun value feed₃ h₃ => ?_
    exact (h.members (by omega)).map _
  · exact ends_skip_bind hpos fun _ _ => ends_pure _
  · exact ends_fail _

theorem value_succ {place : Place} {ends : Token → Bool}
    (hfuel : 3 * feed.tokens.length + 1 ≤ fuel + 1) :
    Ends (readValue place ends (fuel + 1)) feed := by
  rw [readValue]
  refine ends_peek_bind fun t hpos => ?_
  split
  · exact ends_skip_bind hpos fun _ hlt => ends_orEmpty (h.node (by omega))
  · exact ends_pure _

theorem flowEntries_succ {brackets : Brackets} {first : Bool}
    (hfuel : 3 * feed.tokens.length + (if first then 4 else 1) ≤ fuel + 1) :
    Ends (readFlowEntries brackets first (fuel + 1)) feed := by
  rw [readFlowEntries]
  refine ends_peek_bind fun t hpos => ?_
  split
  · exact ends_skip_bind hpos fun _ _ => ends_pure _
  refine ends_skipComma_bind fun feed₁ h₁ => ?_
  have hfuel₁ : 3 * feed₁.tokens.length + 3 ≤ fuel := by grind
  refine ends_peek_bind fun t hpos₁ => ?_
  split
  · refine ends_skip_bind hpos₁ fun feed₂ h₂ => ?_
    refine (ends_orEmpty (h.node (by omega))).bind fun key feed₃ h₃ => ?_
    refine (h.value (by omega)).bind fun value feed₄ h₄ => ?_
    exact (h.flowEntries (by grind)).map _
  split
  · exact ends_skip_bind hpos₁ fun _ _ => ends_pure _
  · refine (h.node hfuel₁).bind fun item feed₂ h₂ => ?_
    exact (h.flowEntries (by grind)).map _

end Suffices

/-- Three steps for each token are enough, with the few that the last one takes. -/
theorem suffices_steps (fuel : Nat) : Suffices fuel := by
  induction fuel with
  | zero => constructor <;> intros <;> grind
  | succ fuel h =>
      exact ⟨h.node_succ, h.content_succ, h.items_succ, h.looseItems_succ, h.members_succ,
        h.value_succ, h.flowEntries_succ⟩

theorem ends_skipDocumentEnds {fuel : Nat} (hfuel : feed.tokens.length + 1 ≤ fuel) :
    Ends (skipDocumentEnds fuel) feed := by
  induction fuel generalizing feed with
  | zero => omega
  | succ fuel ih =>
      rw [skipDocumentEnds]
      refine ends_peek_bind fun t hpos => ?_
      split
      · exact ends_skip_bind hpos fun _ hlt => ih (by omega)
      · exact ends_pure ()

theorem ends_readDirectives {fuel : Nat} {versioned : Bool} {handles : List (String × String)}
    (hfuel : feed.tokens.length + 1 ≤ fuel) :
    Ends (readDirectives fuel versioned handles) feed := by
  induction fuel generalizing feed versioned handles with
  | zero => omega
  | succ fuel ih =>
      rw [readDirectives]
      refine ends_peek_bind fun t hpos => ?_
      split
      · refine ends_skip_bind hpos fun _ hlt => ?_
        split
        · exact ends_fail _
        · exact ih (by omega)
      · refine ends_skip_bind hpos fun _ hlt => ?_
        split
        · exact ends_fail _
        · exact ih (by omega)
      · exact ends_skip_bind hpos fun _ hlt => ih (by omega)
      · exact ends_pure _

theorem ends_readDocumentStart {fuel : Nat} (hfuel : feed.tokens.length + 1 ≤ fuel) :
    Ends (readDocumentStart fuel) feed := by
  refine (ends_skipDocumentEnds hfuel).bind fun _ feed₁ h₁ => ?_
  refine ends_peek_bind fun t _ => ?_
  split
  · exact ends_pure false
  refine (ends_readDirectives (by omega)).bind fun handles feed₂ h₂ => ?_
  refine ends_peek_bind fun t hpos => ?_
  split
  · exact ends_skip_bind hpos fun _ _ =>
      (ends_modify (Nat.le_refl _)).bind fun _ _ _ => ends_pure true
  · exact ends_fail _

theorem ends_readLast {reading : Reading Node} {fuel : Nat} (h : Ends reading feed)
    (hfuel : feed.tokens.length + 1 ≤ fuel) : Ends (readLast reading fuel) feed := by
  refine h.bind fun node feed₁ h₁ => ?_
  refine (ends_readDocumentStart (by omega)).bind fun more _ _ => ?_
  split
  · exact ends_fail _
  · exact ends_pure _

/-- The reading of a document comes to an end. -/
theorem ends_readDocument (feed : Feed) :
    Ends (readDocument (3 * feed.tokens.length + 3)) feed := by
  refine ends_peek_bind fun t _ => ?_
  split
  iterate 3
    refine (ends_readDocumentStart (by omega)).bind fun marked feed₁ h₁ => ?_
    split
    · exact ends_readLast (ends_orEmpty ((suffices_steps _).node (by omega))) (by omega)
    · exact ends_pure none
  exact ends_readLast ((suffices_steps _).node (Nat.le_refl _)) (by omega)

/-- The node of the document of a text, if it has one. -/
def document (text : List Char) : Except Fault (Option Node) :=
  if !text.all isReadable then .error .unreadable
  else
    let (tokens, fault) := tokens text
    let feed : Feed := ⟨tokens, fault, commonHandles, []⟩
    let result : Option (Except Fault (Option Node × Feed)) :=
      readDocument (3 * tokens.length + 3) feed
    (·.1) <$> result.get (Option.isSome_iff_exists.2 ((ends_readDocument feed).imp fun _ h => h.1))

end FluentCalc.Yaml
