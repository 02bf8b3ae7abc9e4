namespace Interpose

def aspectAnnotation : String := "weft.Aspect"

-- Makes a method an advice; its value is a pointcut expression.
def aroundAnnotation : String := "weft.Around"

-- The place of an advice among others: the smaller its integer, the further out it runs.
def privilegeAnnotation : String := "weft.Privilege"

def scopeAnnotation : String := "weft.Scope"

def allocationName : String := "new"

def initializationName : String := "init"

-- The type of any value; what advice methods return.
def valueTypeName : String := "weft.Value"

def unitTypeName : String := "()"

def wiringTypeName : String := "weft.Wiring"

-- The parameter of an advice for join points of both kinds.
def joinPointTypeName : String := "weft.aop.JoinPoint"

-- The parameter of an advice for method executions only.
def proceedingJoinPointTypeName : String := "weft.aop.ProceedingJoinPoint"

-- The parameter of an advice for injected fields only.
def autowireJoinPointTypeName : String := "weft.aop.AutowireJoinPoint"

def joinPointTypeNames : List String :=
  [joinPointTypeName, proceedingJoinPointTypeName, autowireJoinPointTypeName]

def namesJoinPoint (name : String) : Bool := joinPointTypeNames.contains name

end Interpose
