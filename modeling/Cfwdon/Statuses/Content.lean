import Cfwdon.Library.Text

/-!
# Who sees a status, and the text of a remote one

A status has a visibility.  The content of a status of another server is rendered again from
its plain text.
-/

namespace Cfwdon.Statuses

section Visibility

inductive Visibility where
  | publicPost
  | unlisted
  | followersOnly
  | direct
  deriving DecidableEq

def isPublicActivitypubVisibility : Visibility → Bool
  | .publicPost => true
  | .unlisted => true
  | .followersOnly => false
  | .direct => false

/-- The visibility matrix. -/
def localStatusAllowsViewer (visibility : Visibility)
    (isOwner isFollower isDirectParticipant : Bool) : Bool :=
  match visibility with
  | .publicPost => true
  | .unlisted => true
  | .followersOnly => isOwner || isFollower
  | .direct => isOwner || isDirectParticipant

end Visibility

section Content

/-! ## The text of a remote status

Markup of other servers is never stored: tags are stripped, the basic entities
decoded, and the plain text is rendered again as escaped paragraphs.
-/

open Library

/-- Drop what stands between angle brackets. -/
def dropTags : Bool → List Char → List Char
  | _, [] => []
  | inTag, c :: rest =>
    if c = '<' then dropTags true rest
    else if c = '>' then dropTags false rest
    else if inTag then dropTags true rest
    else c :: dropTags false rest

def stripHtmlTags (html : String) : String :=
  String.ofList (dropTags false html.toList)

/-- Replacements made one after the other. -/
def replaceEach (replacements : List (String × String)) (text : String) : String :=
  replacements.foldl (fun current (pattern, replacement) =>
    replaceAll current pattern replacement) text

def decodeBasicHtmlEntities (value : String) : String :=
  replaceEach
    [("&nbsp;", " "), ("&#39;", "'"), ("&#x27;", "'"), ("&quot;", "\""), ("&lt;", "<"),
      ("&gt;", ">"), ("&amp;", "&")]
    value

def escapeHtml (value : String) : String :=
  replaceEach
    [("&", "&amp;"), ("<", "&lt;"), (">", "&gt;"), ("\"", "&quot;"), ("'", "&#39;")]
    value

def renderStatusHtml (text : String) : String :=
  let paragraphs := (splitOn (escapeHtml (trim text)) "\n\n").map fun paragraph =>
    "<p>" ++ replaceAll paragraph "\n" "<br />" ++ "</p>"
  if paragraphs.isEmpty then "<p></p>" else joinWith paragraphs ""

def sanitizeRemoteStatusHtml (html : String) : String :=
  renderStatusHtml (decodeBasicHtmlEntities (stripHtmlTags html))

def sanitizeRemotePlainText (value : String) : String :=
  joinWith (splitWhitespace (decodeBasicHtmlEntities (stripHtmlTags value))) " "

def remoteHttpUrlSchemeAllowed (url : String) : Bool :=
  startsWith (trim url) "http://" || startsWith (trim url) "https://"

def sanitizeRemoteHttpUrl (value : Option String) : Option String :=
  ((value.map trim).filter fun url => url ≠ "").filter fun url => remoteHttpUrlSchemeAllowed url

example : sanitizeRemoteStatusHtml "<b>a</b> &lt; b\n\nc" = "<p>a &lt; b</p><p>c</p>" := by
  decide +kernel

end Content

end Cfwdon.Statuses
