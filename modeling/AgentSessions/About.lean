/-!
# About the program
-/

set_option autoImplicit false

namespace AgentSessions.About

def name : String := "conductor"

def version : String := "0.1.0"

end AgentSessions.About
