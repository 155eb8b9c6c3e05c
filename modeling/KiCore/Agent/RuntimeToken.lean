import Mathlib.Tactic

/-!
# Runtime tokens

Port of `runtime_token.rs`. A token is bound to the user and the conversation it was issued for, to
scopes and to a generation. `issue` hands the conversation's token out again if it has the scopes,
and puts a new one in its place if it has not. An invalidated token never comes back, since new ones
are drawn at random; here they are counted (`minted`).
-/

namespace KiCore.Agent

inductive RuntimeTokenScope where
  | teamContext
  | teamCall
  | conversationHelper
  deriving DecidableEq

def TEAM_RUNTIME_TOKEN_SESSION_GENERATION : String := "default"

structure RuntimeTokenClaims where
  userId : String
  conversationId : String
  scopes : List RuntimeTokenScope
  sessionGeneration : String

structure RuntimeTokenIssue where
  token : Nat
  claims : RuntimeTokenClaims

inductive RuntimeTokenError where
  | missing
  | unknown
  | userMismatch
  | conversationMismatch
  | scopeMissing
  | generationMismatch
  deriving DecidableEq

/-- The tokens that are valid, and how many were ever drawn. -/
structure RuntimeTokenService where
  tokens : List RuntimeTokenIssue
  minted : Nat

namespace RuntimeTokenService

def new : RuntimeTokenService where
  tokens := []
  minted := 0

variable (svc : RuntimeTokenService)

def existingToken (userId conversationId sessionGeneration : String)
    (scopes : List RuntimeTokenScope) : Option RuntimeTokenIssue :=
  svc.tokens.find? fun entry =>
    entry.claims.userId = userId ∧ entry.claims.conversationId = conversationId ∧
      entry.claims.sessionGeneration = sessionGeneration ∧ scopes ⊆ entry.claims.scopes

def invalidateConversation (userId conversationId : String) : RuntimeTokenService :=
  { svc with
    tokens := svc.tokens.filter fun entry =>
      ¬ (entry.claims.userId = userId ∧ entry.claims.conversationId = conversationId) }

def invalidateConversationId (conversationId : String) : RuntimeTokenService :=
  { svc with tokens := svc.tokens.filter fun entry => entry.claims.conversationId ≠ conversationId }

/-- A new token in place of those that the conversation has. -/
def mint (claims : RuntimeTokenClaims) : RuntimeTokenService :=
  let kept := svc.invalidateConversation claims.userId claims.conversationId
  { tokens := ⟨svc.minted, claims⟩ :: kept.tokens, minted := svc.minted + 1 }

def issue (userId conversationId sessionGeneration : String)
    (scopes : List RuntimeTokenScope) : RuntimeTokenIssue × RuntimeTokenService :=
  match svc.existingToken userId conversationId sessionGeneration scopes with
  | some existing => (existing, svc)
  | none =>
    let claims := { userId, conversationId, scopes, sessionGeneration }
    (⟨svc.minted, claims⟩, svc.mint claims)

def validate (rawToken : Option Nat) (userId conversationId : String)
    (scope : RuntimeTokenScope) (sessionGeneration : String) :
    Except RuntimeTokenError RuntimeTokenClaims :=
  match rawToken with
  | none => .error .missing
  | some token =>
    match svc.tokens.find? (·.token = token) with
    | none => .error .unknown
    | some entry =>
      if entry.claims.userId ≠ userId then .error .userMismatch
      else if entry.claims.conversationId ≠ conversationId then .error .conversationMismatch
      else if scope ∉ entry.claims.scopes then .error .scopeMissing
      else if entry.claims.sessionGeneration ≠ sessionGeneration then .error .generationMismatch
      else .ok entry.claims

def Live (token : Nat) : Prop :=
  ∃ entry ∈ svc.tokens, entry.token = token

instance (token : Nat) : Decidable (svc.Live token) :=
  inferInstanceAs (Decidable (∃ entry ∈ svc.tokens, entry.token = token))

def ValidatesFor (token : Nat) (userId conversationId : String)
    (scope : RuntimeTokenScope) (sessionGeneration : String) : Prop :=
  ∃ claims, svc.validate (some token) userId conversationId scope sessionGeneration = .ok claims

/-- Whoever has the token was issued it for this user and conversation, with these scopes. -/
def Covers (token : Nat) (userId conversationId sessionGeneration : String)
    (scopes : List RuntimeTokenScope) : Prop :=
  ∀ entry ∈ svc.tokens, entry.token = token →
    entry.claims.userId = userId ∧ entry.claims.conversationId = conversationId ∧
      entry.claims.sessionGeneration = sessionGeneration ∧ scopes ⊆ entry.claims.scopes

variable {svc : RuntimeTokenService} {token : Nat} {userId conversationId sessionGeneration : String}
  {scopes : List RuntimeTokenScope} {scope : RuntimeTokenScope}

lemma not_validatesFor (dead : ¬ svc.Live token) :
    ¬ svc.ValidatesFor token userId conversationId scope sessionGeneration := by
  rintro ⟨claims, ok⟩
  rw [validate] at ok
  split at ok
  · cases ok
  · rename_i entry found
    have same := List.find?_some found
    exact dead ⟨entry, List.mem_of_find?_eq_some found, of_decide_eq_true same⟩

lemma validatesFor (live : svc.Live token)
    (covers : svc.Covers token userId conversationId sessionGeneration scopes) (mem : scope ∈ scopes) :
    svc.ValidatesFor token userId conversationId scope sessionGeneration := by
  obtain ⟨known, there, rfl⟩ := live
  rw [ValidatesFor, validate]
  split
  · rename_i none_
    have other := List.find?_eq_none.mp none_ known there
    exact absurd (decide_eq_true rfl) other
  · rename_i entry found
    have same := List.find?_some found
    replace same : entry.token = known.token := of_decide_eq_true same
    obtain ⟨user, conversation, generation, sub⟩ :=
      covers entry (List.mem_of_find?_eq_some found) same
    rw [if_neg (not_not.mpr user), if_neg (not_not.mpr conversation), if_neg (not_not.mpr (sub mem)),
      if_neg (not_not.mpr generation)]
    exact ⟨entry.claims, rfl⟩

/-- The tokens that are known are different ones, and were drawn. -/
structure Drawn (svc : RuntimeTokenService) : Prop where
  bounded : ∀ entry ∈ svc.tokens, entry.token < svc.minted
  unique : ∀ entry ∈ svc.tokens, ∀ entry' ∈ svc.tokens, entry.token = entry'.token → entry = entry'

/-- A service some time later: of the tokens that had been drawn it knows no new ones. -/
structure Later (svc svc' : RuntimeTokenService) : Prop where
  minted : svc.minted ≤ svc'.minted
  known : ∀ entry ∈ svc'.tokens, entry.token < svc.minted → entry ∈ svc.tokens

lemma Drawn.new : new.Drawn where
  bounded _ mem := nomatch mem
  unique _ mem := nomatch mem

lemma Later.refl : svc.Later svc where
  minted := le_rfl
  known _ mem _ := mem

variable {svc' : RuntimeTokenService}

lemma Later.dead (later : svc.Later svc') (drawn : token < svc.minted) (dead : ¬ svc.Live token) :
    ¬ svc'.Live token := by
  rintro ⟨entry, mem, rfl⟩
  exact dead ⟨entry, later.known entry mem drawn, rfl⟩

lemma Later.covers (later : svc.Later svc') (drawn : token < svc.minted)
    (covers : svc.Covers token userId conversationId sessionGeneration scopes) :
    svc'.Covers token userId conversationId sessionGeneration scopes := by
  intro entry mem same
  exact covers entry (later.known entry mem (same ▸ drawn)) same

lemma Drawn.invalidateConversationId (h : svc.Drawn) :
    (svc.invalidateConversationId conversationId).Drawn where
  bounded entry mem := h.bounded entry (List.mem_filter.mp mem).1
  unique entry mem entry' mem' :=
    h.unique entry (List.mem_filter.mp mem).1 entry' (List.mem_filter.mp mem').1

lemma Later.invalidateConversationId (conversationId : String) :
    svc.Later (svc.invalidateConversationId conversationId) where
  minted := le_rfl
  known _ mem _ := (List.mem_filter.mp mem).1

lemma dead_invalidateConversationId
    (covers : svc.Covers token userId conversationId sessionGeneration scopes) :
    ¬ (svc.invalidateConversationId conversationId).Live token := by
  rintro ⟨entry, mem, same⟩
  obtain ⟨there, other⟩ := List.mem_filter.mp mem
  exact of_decide_eq_true other (covers entry there same).2.1

variable {claims : RuntimeTokenClaims}

lemma mem_mint {entry : RuntimeTokenIssue} : entry ∈ (svc.mint claims).tokens ↔
    entry = ⟨svc.minted, claims⟩ ∨ entry ∈ svc.tokens ∧
      ¬ (entry.claims.userId = claims.userId ∧
        entry.claims.conversationId = claims.conversationId) := by
  rw [mint, List.mem_cons]
  apply or_congr Iff.rfl
  exact List.mem_filter.trans (and_congr_right fun _ => decide_eq_true_iff)

lemma Drawn.mint (h : svc.Drawn) : (svc.mint claims).Drawn where
  bounded entry mem := by
    obtain rfl | ⟨there, _⟩ := mem_mint.mp mem
    · exact Nat.lt_succ_self _
    · exact Nat.lt_succ_of_lt (h.bounded entry there)
  unique entry mem entry' mem' same := by
    obtain rfl | ⟨there, _⟩ := mem_mint.mp mem <;> obtain rfl | ⟨there', _⟩ := mem_mint.mp mem'
    · rfl
    · exact absurd same (h.bounded entry' there').ne'
    · exact absurd same (h.bounded entry there).ne
    · exact h.unique entry there entry' there' same

lemma Later.mint : svc.Later (svc.mint claims) where
  minted := Nat.le_succ _
  known entry mem old := by
    obtain rfl | ⟨there, _⟩ := mem_mint.mp mem
    · exact absurd old (lt_irrefl _)
    · exact there

lemma dead_mint (drawn : token < svc.minted)
    (covers : svc.Covers token claims.userId claims.conversationId sessionGeneration scopes) :
    ¬ (svc.mint claims).Live token := by
  rintro ⟨entry, mem, same⟩
  obtain rfl | ⟨there, other⟩ := mem_mint.mp mem
  · exact absurd same drawn.ne'
  · obtain ⟨user, conversation, _⟩ := covers entry there same
    exact other ⟨user, conversation⟩

lemma Drawn.issue (h : svc.Drawn) :
    (svc.issue userId conversationId sessionGeneration scopes).2.Drawn := by
  rw [RuntimeTokenService.issue]
  split
  · exact h
  · exact h.mint

lemma Later.issue : svc.Later (svc.issue userId conversationId sessionGeneration scopes).2 := by
  rw [RuntimeTokenService.issue]
  split
  · exact .refl
  · exact .mint

lemma issue_covers (h : svc.Drawn) :
    (svc.issue userId conversationId sessionGeneration scopes).1.token <
        (svc.issue userId conversationId sessionGeneration scopes).2.minted ∧
      (svc.issue userId conversationId sessionGeneration scopes).2.Covers
        (svc.issue userId conversationId sessionGeneration scopes).1.token userId conversationId
        sessionGeneration scopes := by
  rw [RuntimeTokenService.issue]
  split
  · rename_i existing found
    have there := List.mem_of_find?_eq_some found
    refine ⟨h.bounded existing there, fun entry mem same => ?_⟩
    rw [h.unique entry mem existing there same]
    have fits := List.find?_some found
    exact of_decide_eq_true fits
  · refine ⟨Nat.lt_succ_self _, fun entry mem same => ?_⟩
    obtain rfl | ⟨there, _⟩ := mem_mint.mp mem
    · exact ⟨rfl, rfl, rfl, fun _ mem => mem⟩
    · exact absurd same (h.bounded entry there).ne

end RuntimeTokenService

end KiCore.Agent
