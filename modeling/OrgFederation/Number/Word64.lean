namespace OrgFederation.Word64

def greatest : Nat := 18446744073709551615

def leastSigned : Int := -9223372036854775808

def greatestSigned : Int := 9223372036854775807

end OrgFederation.Word64
