namespace ProxyGateway

structure Credentials where
  username : String
  password : String
deriving DecidableEq, Repr

def Credentials.admit (users : List Credentials) (username password : String) : Bool :=
  users.any fun u => u.username == username && u.password == password

end ProxyGateway
