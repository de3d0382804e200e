import SqliteBridge.Proofs.Handle.Correspondence
import SqliteBridge.Proofs.Session.Paths

/-! The tables of tokens along a run: their entries are the tokens that the handles have. -/
namespace SqliteBridge.Session

open Handle.Population (Matched follow_matched)
open Native (Library)

variable {library : Library} {motion : Motion library} {allowed : Act → Prop}
  {session before after : Session library}

structure TokensMatched (session : Session library) : Prop where
  connections : Matched session.connectionTokens
  statements : Matched session.statementTokens

theorem Turn.tokensMatched (turn : Turn motion allowed before after)
    (matched : before.TokensMatched) : after.TokensMatched := by
  cases turn with
  | enters | leaves | asks | answers | steps | resets | prepares | destroys | releasesConnection
  | releasesStatement =>
    exact ⟨matched.connections, matched.statements⟩
  | opens path flags opening opened attempt =>
    exact ⟨attempt.connectionTokens.symm ▸ matched.connections,
      attempt.statementTokens.symm ▸ matched.statements⟩
  | fails path flags opening opened attempt =>
    exact ⟨attempt.connectionTokens.symm ▸ matched.connections,
      attempt.statementTokens.symm ▸ matched.statements⟩
  | closes =>
    constructor
    · rw [connectionTokens_dropCallback]
      exact matched.connections
    · rw [statementTokens_dropCallback]
      exact matched.statements
  | authorizes id callback? =>
    constructor
    · rw [connectionTokens_dropCallback]
      exact (connectionTokens_box before callback?).symm ▸ matched.connections
    · rw [statementTokens_dropCallback]
      exact (statementTokens_box before callback?).symm ▸ matched.statements
  | declines id callback? =>
    constructor
    · rw [connectionTokens_dropCallback]
      exact (connectionTokens_box before callback?).symm ▸ matched.connections
    · rw [statementTokens_dropCallback]
      exact (statementTokens_box before callback?).symm ▸ matched.statements
  | connectionToken id => exact ⟨follow_matched matched.connections (.toToken id), matched.statements⟩
  | statementToken id => exact ⟨matched.connections, follow_matched matched.statements (.toToken id)⟩
  | disposesConnection id =>
    exact ⟨follow_matched matched.connections (.disposeToken id), matched.statements⟩
  | disposesStatement id =>
    exact ⟨matched.connections, follow_matched matched.statements (.disposeToken id)⟩

theorem Path.tokensMatched (path : Path motion allowed before after)
    (matched : before.TokensMatched) : after.TokensMatched := by
  induction path with
  | refl => exact matched
  | tail _ turn ih => exact turn.tokensMatched ih

theorem IsReachable.tokensMatched (reachable : session.IsReachable) : session.TokensMatched := by
  obtain ⟨limit, evolves⟩ := reachable
  exact (evolves.path (.any library)).tokensMatched
    ⟨Handle.Population.withCapacity_matched limit, Handle.Population.withCapacity_matched limit⟩

end SqliteBridge.Session
