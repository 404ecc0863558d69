import BlobDispatch.Host.Settings
import BlobDispatch.Store.Error
import BlobDispatch.Template.Error

/-! What can go wrong with triggers: their declaration, the patterns they use, the store they
read and the settings of their host. -/

namespace BlobDispatch.Trigger

inductive Error where
  | duplicateTrigger (name : String)
  | duplicateInput (trigger parameter : String)
  | template (error : Template.Error)
  | store (error : Store.Error)
  | settings (fault : Host.Settings.Fault)
  deriving DecidableEq

def Error.message : Error → String
  | .duplicateTrigger name => "trigger already registered: " ++ name
  | .duplicateInput trigger parameter =>
    "input parameter declared twice on trigger '" ++ trigger ++ "': " ++ parameter
  | .template error => "path error: " ++ error.message
  | .store error => "store error: " ++ error.message
  | .settings fault => "configuration error: " ++ fault.message

end BlobDispatch.Trigger
