import Cfwdon.Library.Integers
import Cfwdon.Library.Json
import Cfwdon.Library.Table

/-!
# Access tokens

Rows of `oauth_access_tokens`, issued for an account, and of
`oauth_app_access_tokens`, issued for an application alone.  An issued row stores the
hash of its bearer token, in both columns; a row from before the hashes has the bearer
token itself in `access_token` and no hash.  Scopes are stored as a JSON array.

The hash is a parameter, `oauth_bearer_token_hash`.
-/

namespace Cfwdon.OAuth

open Library

/-- `serde_json::to_string` of a list of scopes, as the document written. -/
def scopesToJson (scopes : List String) : Json :=
  .array (scopes.map .string)

/-- `serde_json::from_str::<Vec<String>>`: every element is a string. -/
def scopesFromJson : Json → Option (List String)
  | .array values => values.mapM Json.asStr
  | _ => none

theorem mapM_asStr_map_string (texts : List String) :
    (texts.map Json.string).mapM Json.asStr = some texts := by
  induction texts with
  | nil => rfl
  | cons text rest ih =>
    rw [List.map_cons, List.mapM_cons, ih]
    rfl

@[simp] theorem scopesFromJson_scopesToJson (scopes : List String) :
    scopesFromJson (scopesToJson scopes) = some scopes :=
  mapM_asStr_map_string scopes

/-! ## Rows -/

structure OAuthAccessToken where
  rowid : Nat
  accessToken : String
  accessTokenHash : Option String
  oauthAppId : Int
  accountId : String
  scopesJson : Json
  expiresAt : Option Int

abbrev OAuthAccessTokens := Table OAuthAccessToken OAuthAccessToken.rowid

structure OAuthAppAccessToken where
  rowid : Nat
  accessToken : String
  accessTokenHash : Option String
  oauthAppId : Int
  scopesJson : Json
  expiresAt : Int

abbrev OAuthAppAccessTokens := Table OAuthAppAccessToken OAuthAppAccessToken.rowid

def appAccessTokenTtlSeconds : Int := 3600

section Issuing

variable (hash : String → String)

def issueOauthAccessToken (rowid : Nat) (accessToken : String) (oauthAppId : Int)
    (accountId : String) (scopes : List String) : OAuthAccessToken where
  rowid := rowid
  accessToken := hash accessToken
  accessTokenHash := some (hash accessToken)
  oauthAppId := toI32OrMax oauthAppId
  accountId := accountId
  scopesJson := scopesToJson scopes
  expiresAt := none

def issueOauthAppAccessToken (now : Int) (rowid : Nat) (accessToken : String)
    (oauthAppId : Int) (scopes : List String) : OAuthAppAccessToken where
  rowid := rowid
  accessToken := hash accessToken
  accessTokenHash := some (hash accessToken)
  oauthAppId := toI32OrMax oauthAppId
  scopesJson := scopesToJson scopes
  expiresAt := toI32OrMax (now + appAccessTokenTtlSeconds)

end Issuing

end Cfwdon.OAuth
