import MateScreensaver.Delivery
import MateScreensaver.InProcess

/-!
One list of messages in the two back ends: pam_conversation in the dialog's own
process (gs-auth-pam.c), and the helper that is answered by ext_run, both with the
handler of the dialog (mate-screensaver-dialog.c).
-/

namespace MateScreensaver
open Process Prog Conversation

/- What the user does when asked. The text is what gs_lock_plug_get_text makes of it,
in the encoding of the locale. -/
inductive UserAction
  | typed (text : ShortText)
  | cancel

/- How the plug's loop ends for that. -/
def UserAction.response : UserAction → InProcess.PlugResponse
  | .typed text => .ok text.bytes
  | .cancel => .cancel

/- What is typed is in the encoding of the locale; how messages are translated makes no difference to
what is returned. -/
def plugTexts (toUtf8 : Bytes → Bytes) : InProcess.Texts := ⟨toUtf8, id, some⟩

def ShortText.ofBytes (bytes : Bytes) : Option ShortText :=
  if h : (0 : UInt8) ∉ bytes ∧ bytes.length < maxLen then some ⟨bytes, h.1, h.2⟩ else none

/-- mate-screensaver-dialog.c:203: what it returns, what it stores in response, and
how many of the user's actions there have been then. -/
def authMessageHandler (actions : ℕ → UserAction) (style : GSAuthMessageStyle) (msg : Option Bytes) (n : ℕ) :
    Bool × Option ShortText × ℕ :=
  let (res, resp, plug) :=
    InProcess.authMessageHandler (plugTexts id) (fun i => (actions i).response) style msg 0 { asked := n }
  (res, resp.bind ShortText.ofBytes, plug.asked)

/-- gs-auth-pam.c:236 in the dialog's process, what it returns and the replies that PAM is given, where
`ok` tells whether calloc had memory and `toUtf8` is what a text becomes. -/
def pamConversation (ok : Bool) (toUtf8 : Bytes → Bytes) (actions : ℕ → UserAction) (msgs : List PamMessage) :
    Int × Option PamReplies :=
  let (status, resp, _) :=
    InProcess.pamConversation (plugTexts toUtf8) (fun i => (actions i).response) ok (msgs.map InProcess.Message.ofPam)
  (status, resp.given)

/-! ### Through the helper -/

variable {status exit : WaitStatus} {toUtf8 : Bytes → Bytes} {actions : ℕ → UserAction}
  {msgs rest : List PamMessage} {m : PamMessage} {n : ℕ} {ret : Int} {resp : Option PamReplies} {x : Conversation}

end MateScreensaver
